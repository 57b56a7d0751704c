import ExitContract.Program.Note
import ExitContract.Proofs.Config.Layering

/-!
# What has to do with logs only

Some variables, and one table of a configuration file, tell the program how to write its log.
Whoever leaves them aside sees the same surroundings where they differ. This is made precise
here, and it is shown that the settings for commands come out the same.

**Names that are asked for.** The system finds a variable by the start of an entry, so a name
with an equals sign in it finds the entry of a shorter one. What matters is therefore the
entry that a name would have, and not the name by itself (`Environment.get?_unlogged`).

**One table of several.** A source may say something about both tables of a configuration.
Sources on top of each other are looked at from the place of one table, and there only what
they say about this table counts (`Setting.at?_foldl_overlay_eq`). So a source that says
nothing about it can be left out, and one can be exchanged for another that says the same
about it.

## Main definitions

* `isLogVariable` — the variables that have to do with logs only
* `Environment.unlogged`, `Toml.unlogged` — what is left without them, and without the table
* `World.SameButLog` — surroundings that are the same but for that

## Main statements

* `Environment.get?_unlogged` — other variables do not depend on them
* `World.SameButLog.configured` — nor do the settings for commands
-/

namespace ExitContract

open Config (Part)

/-- Whether a variable has to do with logs only: the filter, or a setting in the table for
logs. -/
def isLogVariable (name : String) : Bool :=
  name == filterVariable || (Variable.path? name).bind List.head? == some Part.logging.key

/-- The entries of a document but the table for logs. -/
def Toml.unlogged (es : List (String × Toml.Value)) : List (String × Toml.Value) :=
  es.filter fun e => e.1 != Part.logging.key

/-! ### Variables -/

namespace Environment

/-- Whether an entry is that of a variable which has to do with logs only. -/
def isLogEntry (entry : String) : Bool := (split? entry).any fun b => isLogVariable b.1

/-- The variables but those that have to do with logs only. -/
def unlogged (env : Environment) : Environment := ⟨env.entries.filter fun e => !isLogEntry e⟩

theorem eq_append_of_dropStart? {start cs rest : List Char}
    (found : dropStart? start cs = some rest) : cs = start ++ rest := by
  induction start generalizing cs with
  | nil =>
      cases found
      rfl
  | cons c start ih =>
      cases cs with
      | nil => cases found
      | cons d cs =>
          rw [dropStart?] at found
          split at found
          · next same => rw [same, ih found, List.cons_append]
          · cases found

/-- The name of an entry is known as soon as the equals sign after it is. -/
theorem name_split?_append {start : String} (marked : '=' ∈ start.toList.tail) (rest : String) :
    (split? (start ++ rest)).map (·.1) = (split? start).map (·.1) := by
  unfold split?
  rw [String.toList_append]
  cases letters : start.toList with
  | nil => simp [letters] at marked
  | cons c cs =>
      rw [letters, List.tail_cons] at marked
      have found : cs.dropWhile (· != '=') ≠ [] := by
        intro none
        simpa using List.dropWhile_eq_nil_iff.mp none '=' marked
      have taken : (cs ++ rest.toList).takeWhile (· != '=') = cs.takeWhile (· != '=') := by
        refine List.takeWhile_append.trans (if_neg fun all => found ?_)
        have whole := (List.takeWhile_prefix (· != '=') (l := cs)).eq_of_length all
        exact List.dropWhile_eq_nil_iff.mpr (List.takeWhile_eq_self_iff.mp whole)
      have left : (cs ++ rest.toList).dropWhile (· != '=') =
          cs.dropWhile (· != '=') ++ rest.toList :=
        List.dropWhile_append.trans (if_neg (by simpa using found))
      dsimp only [List.cons_append]
      rw [taken, left]
      cases stop : cs.dropWhile (· != '=') with
      | nil => exact absurd stop found
      | cons mark value => rfl

/-- An entry that someone finds by a name has to do with logs if one of that name would. -/
theorem isLogEntry_of_dropStart? {name entry : String} {rest : List Char}
    (named : name.isEmpty = false)
    (found : dropStart? (name.toList ++ ['=']) entry.toList = some rest) :
    isLogEntry entry = isLogEntry (name ++ "=") := by
  have whole : entry = (name ++ "=") ++ String.ofList rest := by
    rw [← String.toList_inj, eq_append_of_dropStart? found]
    simp
  have marked : '=' ∈ (name ++ "=").toList.tail := by
    cases letters : name.toList with
    | nil => simp_all
    | cons c cs => simp [letters]
  have same := name_split?_append marked (String.ofList rest)
  rw [← whole] at same
  have tells (e : String) : isLogEntry e = ((split? e).map (·.1)).any isLogVariable := by
    unfold isLogEntry
    cases split? e <;> rfl
  rw [tells, tells, same]

/-- **Other variables do not depend on those for logs.** -/
theorem get?_unlogged (env : Environment) {name : String}
    (other : isLogEntry (name ++ "=") = false) : env.unlogged.get? name = env.get? name := by
  unfold get?
  split
  · rfl
  · next named =>
      rw [← List.head?_filterMap, ← List.head?_filterMap, unlogged, List.filterMap_filter]
      refine congrArg List.head? (List.filterMap_congr fun entry _ => ?_)
      cases found : dropStart? (name.toList ++ ['=']) entry.toList with
      | none => simp
      | some rest =>
          have same := isLogEntry_of_dropStart? (Bool.eq_false_iff.mpr named) found
          rw [same, other]
          rfl

theorem sound_and_clear_of_mem_layers {env : Environment} {v : Setting} (mem : v ∈ env.layers)
    (key : String) : v.Sound ∧ v.Clear [key] := by
  refine ⟨env.sound_of_mem_layers v mem, ?_⟩
  obtain ⟨b, -, path, named, rfl⟩ := env.mem_layers mem
  refine Variable.clear_nest _ fun near => ?_
  rcases List.prefix_cons_iff.mp near with rfl | ⟨rest, rfl, last⟩
  · exact absurd named (Variable.path?_ne_nil b.1)
  · rw [List.prefix_nil.mp last]

/-- A variable for logs says something about one table and nothing about any other. -/
theorem at?_nest_of_isLogVariable {name : String} {path : List String}
    (logs : isLogVariable name = true) (named : Variable.path? name = some path)
    {key : String} (other : key ≠ Part.logging.key) (v : Setting) :
    (Variable.nest path v).at? [key] = none := by
  have filter : Variable.path? filterVariable = none := by decide +kernel
  rw [isLogVariable, named, Bool.or_eq_true, beq_iff_eq, beq_iff_eq] at logs
  rcases logs with rfl | first
  · cases filter.symm.trans named
  · obtain ⟨rest, rfl⟩ := List.head?_eq_some_iff.mp first
    rw [Variable.nest, List.foldr_cons, Setting.at?, Keyed.lookup_cons, if_neg other]
    rfl

/-- What the entries say about a table, one by one. -/
theorem allAt_layers (env : Environment) (key : String) :
    Setting.allAt env.layers [key] = env.entries.filterMap fun e => (split? e).bind fun b =>
      (Variable.path? b.1).bind fun path => (Variable.nest path (Variable.read b.2)).at? [key] := by
  rw [Setting.allAt, layers, bindings, List.filterMap_filterMap, List.filterMap_filterMap]
  refine List.filterMap_congr fun e _ => ?_
  cases split? e with
  | none => rfl
  | some b =>
      rw [Option.bind_some, Option.bind_some]
      cases Variable.path? b.1 <;> rfl

/-- **The variables for logs have no part in the other table.** -/
theorem at?_settings_unlogged (env : Environment) {key : String}
    (other : key ≠ Part.logging.key) :
    env.unlogged.settings.at? [key] = env.settings.at? [key] := by
  have same : Setting.allAt env.unlogged.layers [key] = Setting.allAt env.layers [key] := by
    rw [allAt_layers, allAt_layers, unlogged, List.filterMap_filter]
    refine List.filterMap_congr fun e _ => ?_
    split
    · rfl
    · next logs =>
        cases read : split? e with
        | none => rfl
        | some b =>
            have logs : isLogVariable b.1 = true := by simpa [isLogEntry, read] using logs
            rw [Option.bind_some]
            cases named : Variable.path? b.1 with
            | none => rfl
            | some path => exact (at?_nest_of_isLogVariable logs named other _).symm
  have layered (env : Environment) : env.settings.at? [key] =
      (Setting.allAt env.layers [key]).foldl (fun weak s => some (Setting.onTop weak s)) none := by
    rw [settings_eq_foldl]
    exact Setting.at?_foldl_overlay_eq _ (fun v mem => (sound_and_clear_of_mem_layers mem key).1)
      fun v mem => (sound_and_clear_of_mem_layers mem key).2
  rw [layered, layered, same]

/-- The variables make a table of settings. -/
theorem clear_settings_single (env : Environment) (key : String) : env.settings.Clear [key] := by
  rw [settings_eq_foldl]
  exact Setting.Clear.foldl_overlay trivial
    (fun v mem => (sound_and_clear_of_mem_layers mem key).2)
    fun v mem => (sound_and_clear_of_mem_layers mem key).1

end Environment

/-! ### Documents -/

@[simp] theorem Toml.lookup_unlogged (es : List (String × Toml.Value)) {key : String}
    (other : key ≠ Part.logging.key) : List.lookup key (unlogged es) = List.lookup key es := by
  induction es with
  | nil => rfl
  | cons e es ih =>
      rw [unlogged, List.filter_cons]
      split
      · rw [Keyed.lookup_cons, Keyed.lookup_cons, ← ih, unlogged]
      · next logs =>
          have logs : e.1 = Part.logging.key := by simpa using logs
          rw [Keyed.lookup_cons, if_neg (logs ▸ other), ← ih, unlogged]

/-- A part of a configuration is read from what stands in its place. -/
theorem Config.get_of_decode {u v : Setting} {c d : Config} (part : Part) (soundU : u.Sound)
    (soundV : v.Sound) (tableU : u.Clear [part.key]) (tableV : v.Clear [part.key])
    (same : u.at? [part.key] = v.at? [part.key]) (readU : decode .layered u = .ok c)
    (readV : decode .layered v = .ok d) : part.get c = part.get d := by
  cases soundU with
  | scalar | list => exact tableU.elim
  | @table o es order _ =>
      cases soundV with
      | scalar | list => exact tableV.elim
      | @table o' es' order' _ =>
          have below (o : Origin) (es : List (String × Setting)) :
              (Setting.table o es).at? [part.key] = List.lookup part.key es := by
            rw [Setting.at?]
            cases List.lookup part.key es <;> rfl
          rw [below, below] at same
          -- no key stands twice in either table, so the entry that is found is the one that is read
          have first := shape.reads_entries order.distinct readU part
          have second := shape.reads_entries order'.distinct readV part
          have found : List.lookup (shape.key part) es = List.lookup (shape.key part) es' := same
          rw [found] at first
          cases entry : List.lookup (shape.key part) es' with
          | none =>
              rw [entry] at first second
              exact Eq.trans first (Eq.symm second)
          | some s =>
              rw [entry] at first second
              exact Except.ok.inj (Eq.trans (Eq.symm first) second)

namespace World

/-! ### Sources of a configuration -/

/-- What a file says about a table of a configuration. -/
def saidOf (w : World) (key : String) (p : Path) : Option Setting :=
  (w.document? p).bind fun es =>
    (List.lookup key es).bind (Setting.ofToml? (.file (w.shownName p)))

variable {w w₁ w₂ : World} {explicit : Option String} {c : Config} {p : Path} {ps : List Path}
  {v : Setting}

/-- What a file says about a table is what its document has there. -/
theorem sound_and_clear_of_fileSetting (said : w.fileSetting p = .ok v) (key : String) :
    v.Sound ∧ v.Clear [key] ∧ v.at? [key] = w.saidOf key p := by
  cases holds : w.document? p with
  | none =>
      rw [document?] at holds
      unfold fileSetting at said
      dsimp only at said
      split at said
      · cases said
      · next read =>
          rw [read] at holds
          rw [textSetting?, show Toml.parse? _ = none from holds] at said
          cases said
  | some es =>
      rw [fileSetting_of_document holds] at said
      cases read : Setting.ofTomlEntries? (.file (w.shownName p)) es with
      | none =>
          rw [read] at said
          cases said
      | some ss =>
          rw [read] at said
          cases said
          have found := Setting.lookup_ofTomlEntries? read key
          rw [saidOf, holds, Option.bind_some, ← found, Setting.Clear, Setting.at?]
          refine ⟨sound_of_document holds read, ?_, ?_⟩
          all_goals cases List.lookup key ss <;> trivial

/-- What files amount to, table by table. -/
theorem at?_fileSettings (whole : w.fileSettings ps = .ok v) (key : String) :
    v.Sound ∧ v.Clear [key] ∧
      v.at? [key] = (ps.filterMap (w.saidOf key)).foldl
        (fun weak s => some (Setting.onTop weak s))
        ((Config.default.setting .builtIn).at? [key]) := by
  have each (p : Path) : ∃ s, p ∈ ps → w.fileSetting p = .ok s := by
    cases said : w.fileSetting p with
    | ok s => exact ⟨s, fun _ => rfl⟩
    | error f =>
        refine ⟨.list .builtIn [], fun mem => ?_⟩
        obtain ⟨fs, failed⟩ := fileSettings_error mem said
        cases whole.symm.trans failed
  -- settings for files that are not used are chosen as well, and have no part in what follows
  choose said spec using each
  have sources : w.fileSettings ps =
      .ok ((ps.map said).foldl Setting.overlay (Config.default.setting .builtIn)) := by
    refine fileSettings_eq_ok ?_
    rw [List.map_map]
    exact List.map_congr_left spec
  cases whole.symm.trans sources
  have tells (p : Path) (mem : p ∈ ps) := sound_and_clear_of_fileSetting (spec p mem) key
  have sound : ∀ s ∈ ps.map said, s.Sound := List.forall_mem_map.mpr fun p mem => (tells p mem).1
  have clear : ∀ s ∈ ps.map said, s.Clear [key] :=
    List.forall_mem_map.mpr fun p mem => (tells p mem).2.1
  refine ⟨(Config.sound_setting .builtIn .default).foldl_overlay sound,
    Setting.Clear.foldl_overlay ?_ clear sound, ?_⟩
  · rw [Config.setting, Setting.Clear]
    cases List.lookup key _ <;> trivial
  · rw [Setting.at?_foldl_overlay_eq _ sound clear, Setting.allAt, List.filterMap_map]
    exact congrArg (List.foldl _ _) (List.filterMap_congr fun p mem => (tells p mem).2.2)

/-- A configuration that was loaded was read from the files and the variables. -/
theorem exists_fileSettings_of_loadConfig (loaded : (w.loadConfig explicit).result = .ok c) :
    ∃ v, w.fileSettings (w.usedFiles explicit) = .ok v ∧
      Config.decode .layered (v.overlay w.environment.settings) = .ok c := by
  have named : ∀ name ∈ explicit, w.files.isFile w.directory (Path.ofString name) = true := by
    rintro name ⟨⟩
    unfold loadConfig at loaded
    dsimp only at loaded
    split at loaded
    · assumption
    · cases loaded
  rw [loadConfig_result named] at loaded
  cases whole : w.fileSettings (w.usedFiles explicit) with
  | error faults =>
      rw [configOf, whole] at loaded
      cases loaded
  | ok v => exact ⟨v, rfl, (configOf_eq_ok_iff whole).mp loaded⟩

/-! ### Two worlds -/

/-- Two worlds that differ at most in variables which have to do with logs only, and in what
the files that count for a configuration say about logs. -/
structure SameButLog (explicit : Option String) (w₁ w₂ : World) : Prop where
  directory : w₁.directory = w₂.directory
  account : w₁.account = w₂.account
  environment : w₁.environment.unlogged = w₂.environment.unlogged
  isFile : ∀ p, w₁.files.isFile w₁.directory p = w₂.files.isFile w₂.directory p
  isExecutable : ∀ p,
    w₁.files.isExecutable w₁.directory p = w₂.files.isExecutable w₂.directory p
  documents : ∀ p ∈ w₁.usedFiles explicit,
    (w₁.document? p).map Toml.unlogged = (w₂.document? p).map Toml.unlogged

namespace SameButLog

variable (same : SameButLog explicit w₁ w₂)

include same

/-- Variables that have nothing to do with logs are the same. -/
theorem get? (name : String) (other : Environment.isLogEntry (name ++ "=") = false) :
    w₁.environment.get? name = w₂.environment.get? name := by
  rw [← Environment.get?_unlogged _ other, same.environment, Environment.get?_unlogged _ other]

theorem home : w₁.home = w₂.home := by
  rw [World.home, World.home, same.get? "HOME" (by decide +kernel), same.account]

theorem configFiles : w₁.configFiles = w₂.configFiles := by
  have places : w₁.configPaths = w₂.configPaths := by
    rw [configPaths, configPaths, configDirectory, configDirectory, same.home,
      same.get? "XDG_CONFIG_HOME" (by decide +kernel)]
  simp only [World.configFiles, places, same.isFile]

theorem usedFiles : w₁.usedFiles explicit = w₂.usedFiles explicit := by
  rw [World.usedFiles, World.usedFiles, same.configFiles]

/-- What a file says about a table other than that for logs is the same. -/
theorem saidOf {key : String} (other : key ≠ Part.logging.key) (mem : p ∈ w₁.usedFiles explicit) :
    w₁.saidOf key p = w₂.saidOf key p := by
  have shown : w₁.shownName p = w₂.shownName p := by
    rw [shownName, shownName, directoryPath, directoryPath, same.directory]
  have unlogged (w : World) : w.saidOf key p = ((w.document? p).map Toml.unlogged).bind fun es =>
      (List.lookup key es).bind (Setting.ofToml? (.file (w.shownName p))) := by
    rw [World.saidOf]
    cases w.document? p with
    | none => rfl
    | some es =>
        rw [Option.map_some, Option.bind_some, Option.bind_some, Toml.lookup_unlogged es other]
  rw [unlogged w₁, unlogged w₂, same.documents p mem, shown]

/-- **What a source says about logs has no part in the settings for commands.** -/
theorem configured {c₁ c₂ : Config} (loaded₁ : (w₁.loadConfig explicit).result = .ok c₁)
    (loaded₂ : (w₂.loadConfig explicit).result = .ok c₂) : c₁.defaults = c₂.defaults := by
  have other : Part.defaults.key ≠ Part.logging.key := by decide
  obtain ⟨v₁, whole₁, read₁⟩ := exists_fileSettings_of_loadConfig loaded₁
  obtain ⟨v₂, whole₂, read₂⟩ := exists_fileSettings_of_loadConfig loaded₂
  obtain ⟨sound₁, clear₁, found₁⟩ := at?_fileSettings whole₁ Part.defaults.key
  obtain ⟨sound₂, clear₂, found₂⟩ := at?_fileSettings whole₂ Part.defaults.key
  have told : (w₁.usedFiles explicit).filterMap (w₁.saidOf Part.defaults.key) =
      (w₁.usedFiles explicit).filterMap (w₂.saidOf Part.defaults.key) :=
    List.filterMap_congr fun _ mem => same.saidOf other mem
  have fromFiles : v₁.at? [Part.defaults.key] = v₂.at? [Part.defaults.key] := by
    rw [found₁, found₂, told, same.usedFiles]
  have fromVariables : w₁.environment.settings.at? [Part.defaults.key] =
      w₂.environment.settings.at? [Part.defaults.key] := by
    rw [← Environment.at?_settings_unlogged w₁.environment other, same.environment,
      Environment.at?_settings_unlogged w₂.environment other]
  have soundIn (w : World) : w.environment.settings.Sound := w.environment.sound_settings
  have clearIn (w : World) : w.environment.settings.Clear [Part.defaults.key] :=
    w.environment.clear_settings_single Part.defaults.key
  refine Config.get_of_decode .defaults (sound₁.overlay (soundIn w₁)) (sound₂.overlay (soundIn w₂))
    (clear₁.overlay (clearIn w₁) (soundIn w₁)) (clear₂.overlay (clearIn w₂) (soundIn w₂)) ?_
    read₁ read₂
  rw [Setting.at?_overlay (soundIn w₁) (clearIn w₁), Setting.at?_overlay (soundIn w₂) (clearIn w₂),
    fromFiles, fromVariables]

end SameButLog

end World

end ExitContract
