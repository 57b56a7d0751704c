import ExitContract.Proofs.Config.Leaf
import ExitContract.Proofs.Config.Sources
import Mathlib

/-!
# Layering, leaf by leaf

The configuration of a program in terms of what each source says for each single setting.

**The strongest source wins.** For every leaf the sources are gone through by themselves:
the built-in settings, the files in the usual places, the file that the user names, and the
variables. What counts is what the last of them says that says anything there, and the
others do not matter, whatever they say (`World.winner`). So a value that is wrong does no
harm in a weaker source, and there is no configuration if and only if some winner is wrong.

**Keys that are set aside.** A table of a file is taken for what it stands for, here as
everywhere. So a file with a table that stands for nothing cannot be used, which no
stronger source can mend, and a table that stands for what it holds under a certain key
says something for leaves that it has no entries for
(`World.loadConfig_of_wrapped`).

## Main definitions

* `World.usedFiles` — the files that count, the weakest first
* `World.given`, `World.winner` — what the sources say for a leaf, and the last of them
* `World.Tabular` — a file has tables where a configuration has them
* `World.Silent` — a file that stands for nothing

## Main statements

* `World.at?_layers` — what is found for a leaf is its winner
* `World.loadConfig_leafwise` — the configuration is that of the winners
-/

namespace ExitContract

open Config (Leaf Part)
open Setting (Kind)

theorem Config.Leaf.path_ne_nil (l : Leaf) : l.path ≠ [] := List.cons_ne_nil _ _

/-! ### Variables -/

namespace Environment

variable (env : Environment) {place : List String}

/-- Variables that name leaves, or nothing in the tables of a configuration, are apart from
every leaf. -/
theorem apart_of_leaves
    (leaves : ∀ b ∈ env.bindings, ∀ path, Variable.path? b.1 = some path →
      ∀ part : Part, path.head? = some part.key → ∃ l : Leaf, path = l.path) (l : Leaf) :
    env.Apart l.path := by
  intro b mem path named near
  cases path with
  | nil => exact absurd named (Variable.path?_ne_nil b.1)
  | cons key rest =>
      have first : key = l.part.key :=
        near.elim (fun near => (List.cons_prefix_cons.mp near).1)
          fun near => (List.cons_prefix_cons.mp near).1.symm
      obtain ⟨l', same⟩ := leaves b mem _ named l.part (congrArg some first)
      -- Ways to leaves have two steps each.
      have length : (key :: rest).length = l.path.length := by
        rw [same]
        rfl
      exact near.elim (fun near => near.eq_of_length length)
        fun near => (near.eq_of_length length.symm).symm

theorem at?_settings (inside : place ≠ []) (apart : env.Apart place) :
    Option.Rel Setting.Like (env.settings.at? place) (env.valuesAt place).getLast? := by
  have empty : (Setting.table .environment []).at? place = none := by
    cases place with
    | nil => exact absurd rfl inside
    | cons => rfl
  have last := Setting.at?_foldl_overlay (.table .environment []) env.sound_of_mem_layers
    apart.clear
  rw [← settings_eq_foldl, Setting.allAt, List.filterMap_cons, empty] at last
  rw [← apart.allAt_layers]
  exact last

theorem clear_settings (apart : env.Apart place) : env.settings.Clear place := by
  have empty : (Setting.table .environment []).Clear place := by
    cases place <;> trivial
  rw [settings_eq_foldl]
  exact empty.foldl_overlay apart.clear env.sound_of_mem_layers

end Environment

namespace World

variable (w : World)

/-- The files that count, the weakest first: those that are found in the usual places, and
the one that the user names. -/
def usedFiles (explicit : Option String) : List Path :=
  w.configFiles ++ (explicit.map Path.ofString).toList

/-- What a file says for a leaf. -/
def saidIn (p : Path) (l : Leaf) : Option Setting := do
  let es ← w.document? p
  let table ← List.lookup l.part.key es
  let said ← Setting.ofToml? (.file (w.shownName p)) table
  said.at? [l.key]

/-- What the files and the variables say for a leaf, the weakest first. -/
def given (ps : List Path) (l : Leaf) : List Setting :=
  ps.filterMap (fun p => w.saidIn p l) ++ w.environment.valuesAt l.path

/-- What counts for a leaf: what is said last, and what is built in if nothing is said. -/
def winner (ps : List Path) (l : Leaf) : Setting :=
  (w.given ps l).getLastD (.scalar .builtIn (l.kind.write (Config.default.leaf l)))

/-- A file is a document, in which the two tables of a configuration are tables if they are
there at all. -/
def Tabular (p : Path) : Prop :=
  ∃ es, w.document? p = some es ∧
    ∀ (part : Part) (v : Toml.Value), List.lookup part.key es = some v →
      ∀ s, Setting.ofToml? (.file (w.shownName p)) v = some s → s.IsTable

/-- A file is a document with a table, somewhere below its top, that stands for nothing. -/
def Silent (p : Path) : Prop :=
  ∃ es, w.document? p = some es ∧ ∃ e ∈ es, Toml.Value.Tagged e.2

variable {w} {ps : List Path} {p : Path} {explicit : Option String}

/-! ### Files -/

/-- What a file says, place by place. -/
theorem exists_fileSetting (tabular : w.Tabular p) (speaks : ¬ w.Silent p) :
    ∃ v, w.fileSetting p = .ok v ∧ v.Sound ∧
      ∀ l : Leaf, v.Clear l.path ∧ v.at? l.path = w.saidIn p l := by
  obtain ⟨es, holds, tables⟩ := tabular
  have said := fileSetting_of_document holds
  cases read : Setting.ofTomlEntries? (.file (w.shownName p)) es with
  | none =>
      have tagged := (Setting.ofTomlEntries?_eq_none_iff es).mp read
      exact absurd ⟨es, holds, tagged⟩ speaks
  | some ss =>
      rw [read] at said
      refine ⟨_, said, sound_of_document holds read, fun l => ?_⟩
      have top := Setting.lookup_ofTomlEntries? read l.part.key
      have inFile : w.saidIn p l = (List.lookup l.part.key ss).bind fun s => s.at? [l.key] := by
        rw [top, Option.bind_assoc, saidIn, holds]
        rfl
      rw [inFile, Leaf.path, Setting.Clear, Setting.at?]
      cases found : List.lookup l.part.key ss with
      | none => exact ⟨trivial, rfl⟩
      | some s =>
          rw [top] at found
          obtain ⟨v, there, stands⟩ := Option.bind_eq_some_iff.mp found
          have table := tables l.part v there s stands
          refine ⟨?_, rfl⟩
          cases s with
          | scalar | list => cases table
          | table o ts =>
              dsimp only
              rw [Setting.Clear]
              cases List.lookup l.key ts <;> trivial

theorem fileSetting_of_silent (silent : w.Silent p) : ∃ f, w.fileSetting p = .error f := by
  obtain ⟨es, holds, tagged⟩ := silent
  have said := fileSetting_of_document holds
  rw [(Setting.ofTomlEntries?_eq_none_iff es).mpr tagged] at said
  exact ⟨_, said⟩

/-- What files say, place by place. -/
theorem exists_fileSettings (tabular : ∀ p ∈ ps, w.Tabular p) (speak : ∀ p ∈ ps, ¬ w.Silent p) :
    ∃ files : List Setting,
      w.fileSettings ps =
        .ok (files.foldl Setting.overlay (Config.default.setting .builtIn)) ∧
      (∀ v ∈ files, v.Sound) ∧
      ∀ l : Leaf, (∀ v ∈ files, v.Clear l.path) ∧
        Setting.allAt files l.path = ps.filterMap fun p => w.saidIn p l := by
  -- What a file outside the list says does not matter.
  have each (p : Path) : ∃ v, p ∈ ps → w.fileSetting p = .ok v ∧ v.Sound ∧
      ∀ l : Leaf, v.Clear l.path ∧ v.at? l.path = w.saidIn p l := by
    by_cases mem : p ∈ ps
    · obtain ⟨v, said⟩ := exists_fileSetting (tabular p mem) (speak p mem)
      exact ⟨v, fun _ => said⟩
    · exact ⟨.list .builtIn [], fun there => absurd there mem⟩
  choose said spec using each
  refine ⟨ps.map said, fileSettings_eq_ok ?_, List.forall_mem_map.mpr ?_, fun l => ⟨?_, ?_⟩⟩
  · rw [List.map_map]
    exact List.map_congr_left fun p mem => (spec p mem).1
  · exact fun p mem => (spec p mem).2.1
  · exact List.forall_mem_map.mpr fun p mem => ((spec p mem).2.2 l).1
  · rw [Setting.allAt, List.filterMap_map]
    exact List.filterMap_congr fun p mem => ((spec p mem).2.2 l).2

/-- **What is found for a leaf is its winner.** The sources amount to settings that have
something for every leaf, and this is the winner, up to tables. -/
theorem at?_layers (tabular : ∀ p ∈ ps, w.Tabular p) (speak : ∀ p ∈ ps, ¬ w.Silent p)
    (apart : ∀ l : Leaf, w.environment.Apart l.path) :
    ∃ v, w.fileSettings ps = .ok v ∧ (v.overlay w.environment.settings).Sound ∧
      ∀ l : Leaf, ∃ s, (v.overlay w.environment.settings).at? l.path = some s ∧
        s.Like (w.winner ps l) := by
  obtain ⟨files, whole, sound, place⟩ := exists_fileSettings tabular speak
  have filesSound := (Config.sound_setting .builtIn .default).foldl_overlay sound
  refine ⟨_, whole, filesSound.overlay w.environment.sound_settings, fun l => ?_⟩
  obtain ⟨clear, inFiles⟩ := place l
  have fromFiles := Setting.at?_foldl_overlay (Config.default.setting .builtIn) sound clear
  rw [Setting.allAt, List.filterMap_cons, Config.at?_setting] at fromFiles
  dsimp only at fromFiles
  rw [← Setting.allAt, inFiles, List.getLast?_cons] at fromFiles
  have fromVariables := w.environment.at?_settings l.path_ne_nil (apart l)
  rw [Setting.at?_overlay w.environment.sound_settings (w.environment.clear_settings (apart l)),
    winner, List.getLastD_eq_getLast?, given, List.getLast?_append]
  -- The variables come on top, and the files count where they have nothing.
  generalize w.environment.settings.at? l.path = strong at fromVariables ⊢
  generalize (w.environment.valuesAt l.path).getLast? = last at fromVariables ⊢
  cases fromVariables with
  | some like => exact ⟨_, rfl, (Setting.like_onTop _ _).trans like⟩
  | none =>
      dsimp only
      generalize (files.foldl Setting.overlay _).at? l.path = weak at fromFiles ⊢
      cases fromFiles with
      | some like => exact ⟨_, rfl, like⟩

/-! ### Loading -/

theorem loadConfig_result
    (named : ∀ name ∈ explicit, w.files.isFile w.directory (Path.ofString name) = true) :
    (w.loadConfig explicit).result = w.configOf (w.usedFiles explicit) := by
  cases explicit with
  | none =>
      rw [usedFiles, Option.map_none, Option.toList_none, List.append_nil]
      rfl
  | some name =>
      unfold loadConfig
      dsimp only
      rw [if_pos (named name rfl)]
      rfl

theorem configOf_eq_ok_iff {v : Setting} {c : Config} (whole : w.fileSettings ps = .ok v) :
    w.configOf ps = .ok c ↔
      Config.decode .layered (v.overlay w.environment.settings) = .ok c := by
  rw [configOf, whole]
  dsimp only
  cases Config.decode .layered (v.overlay w.environment.settings) <;> simp

theorem configOf_eq_error_iff {v : Setting} (whole : w.fileSettings ps = .ok v) :
    (∃ e, w.configOf ps = .error e) ↔
      ∃ m, Config.decode .layered (v.overlay w.environment.settings) = .error m := by
  rw [configOf, whole]
  dsimp only
  cases Config.decode .layered (v.overlay w.environment.settings) <;> simp

/-- Files that do not all say something are no configuration. -/
theorem configOf_of_silent (mem : p ∈ ps) (silent : w.Silent p) :
    ∃ e, w.configOf ps = .error e := by
  obtain ⟨f, nothing⟩ := fileSetting_of_silent silent
  obtain ⟨fs, failed⟩ := fileSettings_error mem nothing
  rw [configOf, failed]
  exact ⟨_, rfl⟩

/-- **The configuration of the winners.** Whatever files there are in the usual places,
whether or not the user names another one, and whatever variables are set: if the files are
documents that have tables where a configuration has them, and if no variable stops on the
way to a leaf or goes on from there, then the configuration has for each leaf what its
winner denotes. There is none if and only if some winner is wrong, or a file has a table
that stands for nothing. -/
theorem loadConfig_leafwise {w : World} {explicit : Option String}
    (named : ∀ name ∈ explicit, w.files.isFile w.directory (Path.ofString name) = true)
    (tabular : ∀ p ∈ w.usedFiles explicit, w.Tabular p)
    (apart : ∀ l : Leaf, w.environment.Apart l.path) :
    (∀ c, (w.loadConfig explicit).result = .ok c ↔
        (∀ p ∈ w.usedFiles explicit, ¬ w.Silent p) ∧
          ∀ l : Leaf, l.kind.Denotes (w.winner (w.usedFiles explicit) l) (c.leaf l)) ∧
      ((∃ e, (w.loadConfig explicit).result = .error e) ↔
        (∃ p ∈ w.usedFiles explicit, w.Silent p) ∨
          ∃ l : Leaf, l.kind.Wrong (w.winner (w.usedFiles explicit) l)) := by
  rw [loadConfig_result named]
  by_cases speak : ∀ p ∈ w.usedFiles explicit, ¬ w.Silent p
  · obtain ⟨v, whole, sound, place⟩ := at?_layers tabular speak apart
    choose found full like using place
    have right (c : Config) : w.configOf (w.usedFiles explicit) = .ok c ↔
        ∀ l : Leaf, l.kind.Denotes (w.winner (w.usedFiles explicit) l) (c.leaf l) :=
      (configOf_eq_ok_iff whole).trans <| (Config.decode_eq_ok_iff sound full).trans <|
        forall_congr' fun l => Kind.denotes_iff_of_like (like l)
    have wrong : (∃ e, w.configOf (w.usedFiles explicit) = .error e) ↔
        ∃ l : Leaf, l.kind.Wrong (w.winner (w.usedFiles explicit) l) :=
      (configOf_eq_error_iff whole).trans <| (Config.decode_eq_error_iff sound full).trans <|
        exists_congr fun l => Kind.wrong_iff_of_like (like l)
    have noneSilent : ¬ ∃ p ∈ w.usedFiles explicit, w.Silent p := by
      rintro ⟨p, mem, silent⟩
      exact speak p mem silent
    exact ⟨fun c => (right c).trans (and_iff_right speak).symm,
      wrong.trans (or_iff_right noneSilent).symm⟩
  · obtain ⟨p, mem, silent⟩ : ∃ p ∈ w.usedFiles explicit, w.Silent p := by
      by_contra none
      exact speak fun p mem silent => none ⟨p, mem, silent⟩
    obtain ⟨e, failed⟩ := configOf_of_silent mem silent
    rw [failed]
    refine ⟨fun c => ⟨nofun, fun h => absurd silent (h.1 p mem)⟩, ?_⟩
    exact ⟨fun _ => .inl ⟨p, mem, silent⟩, fun _ => ⟨e, rfl⟩⟩

/-- A file that the user names has a timeout that is wrong, which a variable mends, and a
code that is not built in. -/
theorem loadConfig_leafwise_of_overridden :
    let text := "[defaults]\nkill_exit_code = 5\ntimeout = \"soon\"\n"
    let w : World := {
      files := ⟨[([Utf8.encode "c.toml"], .file (Utf8.encode text) false)]⟩
      directory := []
      environment := ⟨["PROCWRAP_DEFAULTS__TIMEOUT=7"]⟩ }
    w.usedFiles (some "c.toml") = [Path.ofString "c.toml"] ∧
      (w.loadConfig (some "c.toml")).result =
        .ok { Config.default with
          defaults := { Defaults.default with timeout := 7, killCode := 5 } } := by
  intro text w
  let p := Path.ofString "c.toml"
  let es : List (String × Toml.Value) :=
    [("defaults", .table [("kill_exit_code", .integer 5), ("timeout", .text "soon")])]
  have holds : w.document? p = some es := by
    have read : w.files.readText w.directory p = .ok text := by decide +kernel
    have parsed : Toml.parse? "[defaults]\nkill_exit_code = 5\ntimeout = \"soon\"\n" =
        some [("defaults", .table [("kill_exit_code", .integer 5), ("timeout", .text "soon")])] := by
      cbv
    rw [document?, read]
    exact parsed
  have bindings : w.environment.bindings = [("PROCWRAP_DEFAULTS__TIMEOUT", "7")] := by
    decide +kernel
  have place : Variable.path? "PROCWRAP_DEFAULTS__TIMEOUT" = some ["defaults", "timeout"] := by
    decide +kernel
  have seven : Variable.read "7" = .scalar .environment (.unsigned 7) := by rfl
  have named : ∀ name ∈ some "c.toml", w.files.isFile w.directory (Path.ofString name) = true := by
    decide +kernel
  have used : w.usedFiles (some "c.toml") = [p] := by
    decide +kernel
  have tabular : ∀ f ∈ w.usedFiles (some "c.toml"), w.Tabular f := by
    rw [used, List.forall_mem_singleton]
    refine ⟨es, holds, fun part v found s stands => ?_⟩
    cases part with
    | defaults =>
        cases found
        cases stands
        trivial
    | logging => cases found
  have speaks : ∀ f ∈ w.usedFiles (some "c.toml"), ¬ w.Silent f := by
    rw [used, List.forall_mem_singleton]
    rintro ⟨es', held, e, mem, tagged⟩
    cases holds.symm.trans held
    cases List.mem_singleton.mp mem
    cases (Setting.ofToml?_eq_none_iff (o := .builtIn) _).mpr tagged
  have apart : ∀ l : Leaf, w.environment.Apart l.path := by
    refine w.environment.apart_of_leaves ?_
    rw [bindings, List.forall_mem_singleton]
    intro path leads _ _
    cases place.symm.trans leads
    exact ⟨.defaults .timeout, rfl⟩
  refine ⟨used, ((loadConfig_leafwise named tabular apart).1 _).mpr ⟨speaks, fun l => ?_⟩⟩
  rw [used, winner, given, List.filterMap_cons, List.filterMap_nil, saidIn, holds,
    Environment.valuesAt, bindings, List.filterMap_cons, List.filterMap_nil]
  dsimp only
  rw [place, seven]
  rcases l with l | l
  · cases l with
    | timeout => exact .seconds rfl
    | killCode => exact .code rfl
    | expectedCode | checkCode | errorMessage | failOnTimeout =>
        exact Kind.denotes_write .builtIn _ _
  · cases l with
    | level | format => exact Kind.denotes_write .builtIn _ _

/-- The entries of the tables of a file do not tell everything that it says. Here a table
has no entry for the limit, and one that is for no leaf, and no other source says anything.
Still the limit is not the one that is built in. -/
theorem loadConfig_of_wrapped :
    let text := "[defaults]\n___figment_value_value = \x7btimeout = 9\x7d\n"
    let w : World := ⟨⟨[([Utf8.encode "c.toml"], .file (Utf8.encode text) false)]⟩, [], ⟨[]⟩, none⟩
    let timeout : Leaf := .defaults .timeout
    w.usedFiles (some "c.toml") = [Path.ofString "c.toml"] ∧
      (∃ ts, w.document? (Path.ofString "c.toml") = some [("defaults", .table ts)] ∧
        List.lookup timeout.key ts = none) ∧
      w.environment.bindings = [] ∧
      ∃ c, (w.loadConfig (some "c.toml")).result = .ok c ∧
        c.leaf timeout ≠ Config.default.leaf timeout := by
  intro text w timeout
  have parsed : Toml.parse? "[defaults]\n___figment_value_value = \x7btimeout = 9\x7d\n" =
      some [("defaults", .table [(Setting.wrapKey, .table [("timeout", .integer 9)])])] := by
    cbv
  let p := Path.ofString "c.toml"
  have read : w.files.readText w.directory p = .ok text := by decide +kernel
  have holds : w.document? p =
      some [("defaults", .table [(Setting.wrapKey, .table [("timeout", .integer 9)])])] := by
    rw [document?, read]
    exact parsed
  have used : w.usedFiles (some "c.toml") = [p] := by
    decide +kernel
  have named : ∀ name ∈ some "c.toml", w.files.isFile w.directory (Path.ofString name) = true := by
    decide +kernel
  let o : Origin := .file (w.shownName p)
  let said : Setting :=
    .table o [("defaults", .table o [("timeout", .scalar o (.signed 9))])]
  have whole : w.fileSettings [p] = .ok ((Config.default.setting .builtIn).overlay said) := by
    have one : [p].map w.fileSetting = [said].map .ok := by
      rw [List.map_singleton, fileSetting_of_document holds]
      rfl
    exact fileSettings_eq_ok one
  have loaded : (w.loadConfig (some "c.toml")).result =
      .ok { Config.default with defaults := { Defaults.default with timeout := 9 } } := by
    rw [loadConfig_result named, used]
    refine (configOf_eq_ok_iff whole).mpr ?_
    clear_value o
    cbv
  refine ⟨used, ⟨_, holds, rfl⟩, rfl, _, loaded, ?_⟩
  show (9 : UInt64) ≠ 0
  decide

end World

end ExitContract
