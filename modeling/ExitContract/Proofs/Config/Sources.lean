import ExitContract.Config.Load
import ExitContract.Proofs.Config.Overlay
import ExitContract.Proofs.Text.WrittenNumeral
import ExitContract.Proofs.Toml.Ordered

/-!
# What the sources of a configuration say

The built-in settings, the files and the variables as settings that can be laid on top of
each other.

**Files.** A value of a document is taken over as it is, but for two keys that are set
aside. A table that has the one stands for what it holds there, and a table that has the
other stands for nothing, so that its whole file says nothing. Neither is looked for among
the entries of the document itself.

**Variables.** The name of a variable is a way, and its value is what stands there. So a
variable says something about one place and nothing about any other, unless its way leads
past the place or ends before it.

## Main definitions

* `Toml.Value.Tagged` — somewhere in a value there is a table that stands for nothing
* `Environment.layers` — the variables as sources, one by one

## Main statements

* `Setting.ofToml?_eq_none_iff` — what says nothing
* `Setting.sound_ofToml?`, `Variable.sound_read` — what is said is sound
* `Environment.settings_eq_foldl` — the variables on top of each other
* `World.fileSettings_eq_ok` — files on top of the built-in settings
-/

namespace ExitContract

open Keyed (Ascending)

/-- Somewhere in a value there is a table with the key that is set aside for values which
no document can write. -/
inductive Toml.Value.Tagged : Toml.Value → Prop
  | here {es : List (String × Value)} {v : Value} (mem : (Setting.tagKey, v) ∈ es) :
      Tagged (.table es)
  | entry {es : List (String × Value)} {e : String × Value} (mem : e ∈ es)
      (tagged : Tagged e.2) : Tagged (.table es)
  | item {items : List Value} {v : Value} (mem : v ∈ items) (tagged : Tagged v) :
      Tagged (.list items)

namespace Setting

variable {o : Origin}

/-! ### Documents -/

theorem ofTomlEntries?_cons {k : String} {v : Toml.Value} {es : List (String × Toml.Value)}
    {ss : List (String × Setting)} :
    ofTomlEntries? o ((k, v) :: es) = some ss ↔
      ∃ s rest, ofToml? o v = some s ∧ ofTomlEntries? o es = some rest ∧ ss = (k, s) :: rest := by
  rw [ofTomlEntries?]
  constructor
  · intro said
    obtain ⟨s, first, said⟩ := Option.bind_eq_some_iff.mp said
    obtain ⟨rest, later, rfl⟩ := Option.map_eq_some_iff.mp said
    exact ⟨s, rest, first, later, rfl⟩
  · rintro ⟨s, rest, first, later, rfl⟩
    rw [first, later]
    rfl

/-- The settings of entries have their keys. -/
theorem keys_ofTomlEntries? {es : List (String × Toml.Value)} {ss : List (String × Setting)}
    (said : ofTomlEntries? o es = some ss) : ss.map (·.1) = es.map (·.1) := by
  induction es generalizing ss with
  | nil =>
      cases said
      rfl
  | cons e es ih =>
      obtain ⟨k, v⟩ := e
      obtain ⟨s, rest, -, later, rfl⟩ := ofTomlEntries?_cons.mp said
      rw [List.map_cons, List.map_cons, ih later]

/-- What is found for a key is what is said there. -/
theorem lookup_ofTomlEntries? {es : List (String × Toml.Value)} {ss : List (String × Setting)}
    (said : ofTomlEntries? o es = some ss) (key : String) :
    List.lookup key ss = (List.lookup key es).bind (ofToml? o) := by
  induction es generalizing ss with
  | nil =>
      cases said
      rfl
  | cons e es ih =>
      obtain ⟨k, v⟩ := e
      obtain ⟨s, rest, first, later, rfl⟩ := ofTomlEntries?_cons.mp said
      rw [Keyed.lookup_cons, Keyed.lookup_cons, ih later]
      split
      · exact first.symm
      · rfl

theorem mem_ofTomlEntries? {es : List (String × Toml.Value)} {ss : List (String × Setting)}
    (said : ofTomlEntries? o es = some ss) {s : String × Setting} (mem : s ∈ ss) :
    ∃ e ∈ es, ofToml? o e.2 = some s.2 := by
  induction es generalizing ss with
  | nil =>
      cases said
      cases mem
  | cons e es ih =>
      obtain ⟨k, v⟩ := e
      obtain ⟨s', rest, first, later, rfl⟩ := ofTomlEntries?_cons.mp said
      rcases List.mem_cons.mp mem with rfl | mem
      · exact ⟨_, List.mem_cons_self, first⟩
      · obtain ⟨e, there, said⟩ := ih later mem
        exact ⟨e, List.mem_cons_of_mem _ there, said⟩

/-- Sound entries say a sound table. -/
theorem sound_ofTomlEntries? {es : List (String × Toml.Value)} {ss : List (String × Setting)}
    (order : Ascending es)
    (entries : ∀ e ∈ es, ∀ s, ofToml? o e.2 = some s → s.Sound)
    (said : ofTomlEntries? o es = some ss) : (table o ss).Sound := by
  refine .table o ?_ fun s mem => ?_
  · have keys : (es.map (·.1)).Pairwise (· < ·) := List.pairwise_map.mpr order
    rw [← keys_ofTomlEntries? said] at keys
    exact List.pairwise_map.mp keys
  · obtain ⟨e, there, said⟩ := mem_ofTomlEntries? said mem
    exact entries e there _ said

/-- **What a sound value of a document says is sound.** -/
theorem sound_ofToml? {v : Toml.Value} (h : v.Sound) {s : Setting}
    (said : ofToml? o v = some s) : s.Sound := by
  induction h generalizing s with
  | text | real | boolean =>
      cases said
      exact .scalar o trivial
  | integer bound =>
      cases said
      exact .scalar o bound
  | moment written =>
      cases said
      refine .table o (Keyed.ascending_single _) fun e mem => ?_
      rw [List.mem_singleton.mp mem]
      exact .scalar o trivial
  | list items =>
      obtain ⟨ss, -, rfl⟩ := Option.map_eq_some_iff.mp said
      exact .list o ss
  | table order _ ih =>
      obtain ⟨ss, entries, said⟩ := Option.bind_eq_some_iff.mp said
      have sound := sound_ofTomlEntries? order (fun e mem _ => ih e mem) entries
      unfold ofEntries? at said
      split at said
      · cases said
      · cases wrapped : List.lookup wrapKey ss with
        | none =>
            rw [wrapped] at said
            cases said
            exact sound
        | some inner =>
            rw [wrapped] at said
            cases said
            cases sound with
            | table _ _ entries => exact entries _ (Keyed.mem_of_lookup wrapped)

/-- A table stands for nothing if it has the key that is set aside for that. -/
theorem ofEntries?_eq_none_iff {es : List (String × Toml.Value)}
    {ss : List (String × Setting)} (said : ofTomlEntries? o es = some ss) :
    ofEntries? o ss = none ↔ ∃ v, (tagKey, v) ∈ es := by
  have keys : (List.lookup tagKey ss).isSome = true ↔ tagKey ∈ es.map (·.1) := by
    rw [Keyed.lookup_isSome_iff, keys_ofTomlEntries? said]
  have marked : tagKey ∈ es.map (·.1) ↔ ∃ v, (tagKey, v) ∈ es := by
    simp
  rw [← marked, ← keys, ofEntries?]
  split
  · next there => exact ⟨fun _ => there, fun _ => rfl⟩
  · next absent => exact ⟨nofun, fun there => absurd there absent⟩

mutual

/-- **A value says nothing if and only if it is tagged.** -/
theorem ofToml?_eq_none_iff (v : Toml.Value) : ofToml? o v = none ↔ v.Tagged := by
  match v with
  | .text _ | .integer _ | .real _ | .boolean _ | .moment _ => exact ⟨nofun, nofun⟩
  | .list items =>
      rw [ofToml?, Option.map_eq_none_iff, ofTomlItems?_eq_none_iff items]
      constructor
      · rintro ⟨v, mem, tagged⟩
        exact .item mem tagged
      · rintro (_ | _ | ⟨mem, tagged⟩)
        exact ⟨_, mem, tagged⟩
  | .table es =>
      have below := ofTomlEntries?_eq_none_iff es
      rw [ofToml?]
      cases said : ofTomlEntries? o es with
      | none =>
          obtain ⟨e, mem, tagged⟩ := below.mp said
          exact ⟨fun _ => .entry mem tagged, fun _ => rfl⟩
      | some ss =>
          rw [Option.bind_some, ofEntries?_eq_none_iff said]
          constructor
          · rintro ⟨v, mem⟩
            exact .here mem
          · rintro (mem | ⟨mem, tagged⟩)
            · exact ⟨_, mem⟩
            · rw [below.mpr ⟨_, mem, tagged⟩] at said
              cases said

theorem ofTomlItems?_eq_none_iff (vs : List Toml.Value) :
    ofTomlItems? o vs = none ↔ ∃ v ∈ vs, v.Tagged := by
  match vs with
  | [] => exact ⟨nofun, nofun⟩
  | v :: vs =>
      rw [List.exists_mem_cons_iff, ← ofToml?_eq_none_iff v, ← ofTomlItems?_eq_none_iff vs,
        ofTomlItems?]
      cases ofToml? o v <;> simp

theorem ofTomlEntries?_eq_none_iff (es : List (String × Toml.Value)) :
    ofTomlEntries? o es = none ↔ ∃ e ∈ es, e.2.Tagged := by
  match es with
  | [] => exact ⟨nofun, nofun⟩
  | (k, v) :: es =>
      rw [List.exists_mem_cons_iff, ← ofToml?_eq_none_iff v, ← ofTomlEntries?_eq_none_iff es,
        ofTomlEntries?]
      cases ofToml? o v <;> simp

end

end Setting

/-! ### Variables -/

namespace Variable

theorem steps_ne_nil (cs : List Char) : steps cs ≠ [] := by
  fun_cases steps cs <;> exact List.cons_ne_nil _ _

/-- The name of a variable is never the empty way. -/
theorem path?_ne_nil (name : String) : path? name ≠ some [] := by
  unfold path?
  extract_lets lower
  split
  · nofun
  · next rest _ =>
      extract_lets ss
      split
      · nofun
      · intro none
        exact steps_ne_nil _ (List.map_eq_nil_iff.mp (Option.some.inj none))

theorem sound_plain (cs : List Char) : (plain cs).Sound := by
  unfold plain
  extract_lets cs text whole
  have sound : whole.Sound := by
    unfold whole
    split
    · exact .scalar _ trivial
    · split
      · next read => exact .scalar _ (le_of_readInteger read)
      · exact .scalar _ trivial
  clear_value whole
  split
  · split
    · exact .scalar _ trivial
    · exact sound
  · exact sound

/-- What is read with so much fuel is sound: values, and the values of entries, the readers
of which call each other with less fuel. -/
structure ReadsSound (fuel : Nat) : Prop where
  value : ∀ {cs v rest}, readValue? fuel cs = some (v, rest) → v.Sound
  entries : ∀ {cs es rest}, readEntries? fuel cs = some (es, rest) →
    ∀ e ∈ es, Setting.Sound e.2

section

variable {fuel : Nat} {cs rest : List Char}

theorem ReadsSound.next_value (h : ReadsSound fuel) {v : Setting}
    (read : readValue? (fuel + 1) cs = some (v, rest)) : v.Sound := by
  unfold readValue? at read
  extract_lets word gapless found at read
  obtain ⟨⟨w, tail⟩, here, same⟩ := Option.map_eq_some_iff.mp read
  cases same
  have ofWord {text : String} {b : Bool} {r : Setting × List Char}
      (read : word text b gapless = some r) : r.1.Sound := by
    obtain ⟨tail, -, rfl⟩ := Option.map_eq_some_iff.mp read
    exact .scalar _ trivial
  unfold found at here
  clear_value found word gapless
  split at here
  · next read =>
      cases here
      exact ofWord read
  · next read =>
      cases here
      exact ofWord read
  · split at here
    · obtain ⟨⟨es, tail⟩, inside, same⟩ := Option.map_eq_some_iff.mp here
      cases same
      exact .table _ (Keyed.ascending_ofList es)
        fun e mem => h.entries inside e (Keyed.mem_ofList mem)
    · obtain ⟨⟨vs, tail⟩, -, same⟩ := Option.map_eq_some_iff.mp here
      cases same
      exact .list _ vs
    · obtain ⟨⟨s, tail⟩, -, same⟩ := Option.map_eq_some_iff.mp here
      cases same
      exact .scalar _ trivial
    · cases here
      exact .scalar _ trivial
    · cases here
    · cases here
      exact sound_plain _

theorem ReadsSound.next_entries (h : ReadsSound fuel) {es : List (String × Setting)}
    (read : readEntries? (fuel + 1) cs = some (es, rest)) : ∀ e ∈ es, Setting.Sound e.2 := by
  unfold readEntries? at read
  split at read
  · cases read
    exact fun _ mem => absurd mem List.not_mem_nil
  · split at read
    · cases read
    · split at read
      · split at read
        · cases read
        · next found =>
            obtain ⟨⟨more, tail⟩, later, same⟩ := Option.map_eq_some_iff.mp read
            cases same
            exact List.forall_mem_cons.mpr ⟨h.value found, h.entries later⟩
        · next found =>
            cases read
            exact List.forall_mem_singleton.mpr (h.value found)
        · cases read
      · cases read

theorem readsSound (fuel : Nat) : ReadsSound fuel := by
  induction fuel with
  | zero =>
      refine ⟨fun read => ?_, fun read => ?_⟩
      · rw [readValue?] at read
        cases read
      · rw [readEntries?] at read
        cases read
  | succ fuel ih => exact ⟨ih.next_value, ih.next_entries⟩

end

/-- **What a variable says is sound.** -/
theorem sound_read (value : String) : (read value).Sound := by
  unfold read
  extract_lets cs
  split
  · next found => exact (readsSound _).value found
  · exact .scalar _ trivial

/-- What stands at the end of a way is sound from its start if it is sound. -/
theorem sound_nest {v : Setting} (h : v.Sound) (path : List String) : (nest path v).Sound := by
  induction path with
  | nil => exact h
  | cons key path ih =>
      refine .table _ (Keyed.ascending_single _) fun e mem => ?_
      rw [List.mem_singleton.mp mem]
      exact ih

/-- A variable says something at the place that it names and nowhere else. -/
theorem at?_nest (v : Setting) {path place : List String}
    (apart : path <+: place ∨ place <+: path → path = place) :
    (nest path v).at? place = if path = place then some v else none := by
  induction path generalizing place with
  | nil =>
      cases apart (.inl List.nil_prefix)
      rfl
  | cons key path ih =>
      cases place with
      | nil => cases apart (.inr List.nil_prefix)
      | cons key' place =>
          rw [nest, List.foldr_cons, Setting.at?, Keyed.lookup_cons, ← nest]
          by_cases same : key' = key
          · subst same
            have below : path <+: place ∨ place <+: path → path = place := by
              intro near
              have whole := apart (near.imp (List.prefix_cons_inj key').mpr
                (List.prefix_cons_inj key').mpr)
              exact (List.cons.inj whole).2
            rw [if_pos rfl]
            dsimp only
            rw [ih below]
            exact if_congr (by simp) rfl rfl
          · rw [if_neg same, if_neg fun whole => same (List.cons.inj whole).1.symm]
            rfl

/-- A variable hides only what is below the place that it names. -/
theorem clear_nest (v : Setting) {path place : List String}
    (apart : path <+: place → path = place) : (nest path v).Clear place := by
  induction path generalizing place with
  | nil =>
      cases apart List.nil_prefix
      trivial
  | cons key path ih =>
      cases place with
      | nil => trivial
      | cons key' place =>
          rw [nest, List.foldr_cons, Setting.Clear, Keyed.lookup_cons, ← nest]
          by_cases same : key' = key
          · subst same
            rw [if_pos rfl]
            refine ih fun near => ?_
            exact (List.cons.inj (apart ((List.prefix_cons_inj key').mpr near))).2
          · rw [if_neg same]
            trivial

end Variable

namespace Environment

variable (env : Environment) {place : List String}

/-- The variables as sources, one by one. -/
def layers : List Setting :=
  env.bindings.filterMap fun b =>
    (Variable.path? b.1).map fun path => Variable.nest path (Variable.read b.2)

/-- What the variables that name a place say there. -/
def valuesAt (place : List String) : List Setting :=
  env.bindings.filterMap fun b =>
    if Variable.path? b.1 = some place then some (Variable.read b.2) else none

/-- No variable names a place on the way to this one or beyond it. -/
def Apart (place : List String) : Prop :=
  ∀ b ∈ env.bindings, ∀ path, Variable.path? b.1 = some path →
    path <+: place ∨ place <+: path → path = place

/-- **The settings of the variables are those of each, on top of each other.** -/
theorem settings_eq_foldl :
    env.settings = env.layers.foldl Setting.overlay (.table .environment []) := by
  rw [settings, layers, List.foldl_filterMap]
  refine List.foldl_ext _ _ _ fun acc b _ => ?_
  obtain ⟨name, value⟩ := b
  dsimp only
  cases Variable.path? name <;> rfl

theorem mem_layers {v : Setting} (mem : v ∈ env.layers) :
    ∃ b ∈ env.bindings, ∃ path, Variable.path? b.1 = some path ∧
      v = Variable.nest path (Variable.read b.2) := by
  obtain ⟨b, there, said⟩ := List.mem_filterMap.mp mem
  obtain ⟨path, named, rfl⟩ := Option.map_eq_some_iff.mp said
  exact ⟨b, there, path, named, rfl⟩

theorem sound_of_mem_layers : ∀ v ∈ env.layers, v.Sound := by
  intro v mem
  obtain ⟨b, -, path, -, rfl⟩ := env.mem_layers mem
  exact Variable.sound_nest (Variable.sound_read b.2) path

theorem Apart.clear (h : env.Apart place) : ∀ v ∈ env.layers, v.Clear place := by
  intro v mem
  obtain ⟨b, there, path, named, rfl⟩ := env.mem_layers mem
  exact Variable.clear_nest _ fun near => h b there path named (.inl near)

theorem sound_settings : env.settings.Sound := by
  rw [settings_eq_foldl]
  exact .foldl_overlay (.table _ Keyed.ascending_nil nofun) env.sound_of_mem_layers

/-- Of all variables only those that name a place have something there. -/
theorem Apart.allAt_layers (h : env.Apart place) :
    Setting.allAt env.layers place = env.valuesAt place := by
  rw [Setting.allAt, layers, valuesAt, List.filterMap_filterMap]
  refine List.filterMap_congr fun b mem => ?_
  cases named : Variable.path? b.1 with
  | none => rfl
  | some path =>
      show (Variable.nest path (Variable.read b.2)).at? place = _
      rw [Variable.at?_nest _ (h b mem path named)]
      exact if_congr Option.some_inj.symm rfl rfl

end Environment

/-! ### Files -/

namespace World

variable {w : World} {p : Path} {es : List (String × Toml.Value)}

/-- The document that a file holds, if it holds one. -/
def document? (w : World) (p : Path) : Option (List (String × Toml.Value)) :=
  match w.files.readText w.directory p with
  | .error _ => none
  | .ok text => Toml.parse? text

theorem fileSetting_of_document (holds : w.document? p = some es) :
    w.fileSetting p =
      match Setting.ofTomlEntries? (.file (w.shownName p)) es with
      | some ss => .ok (.table (.file (w.shownName p)) ss)
      | none => .error (.malformedFile (w.shownName p)) := by
  rw [document?] at holds
  rw [fileSetting]
  cases content : w.files.readText w.directory p with
  | error e =>
      rw [content] at holds
      cases holds
  | ok text =>
      rw [content] at holds
      dsimp only at holds ⊢
      rw [textSetting?, holds, Option.bind_eq_bind, Option.bind_some]
      cases Setting.ofTomlEntries? (.file (w.shownName p)) es <;> rfl

/-- What a document says is sound. -/
theorem sound_of_document {o : Origin} {ss : List (String × Setting)}
    (holds : w.document? p = some es) (said : Setting.ofTomlEntries? o es = some ss) :
    (Setting.table o ss).Sound := by
  rw [document?] at holds
  split at holds
  · cases holds
  · cases Toml.sound_of_parse? holds with
    | table order entries =>
        exact Setting.sound_ofTomlEntries? order
          (fun e mem _ => Setting.sound_ofToml? (entries e mem)) said

/-- **If every file says something, then all of it is laid on top of the built-in
settings.** -/
theorem fileSettings_eq_ok {ps : List Path} {vs : List Setting}
    (said : ps.map w.fileSetting = vs.map .ok) :
    w.fileSettings ps = .ok (vs.foldl Setting.overlay (Config.default.setting .builtIn)) := by
  rw [fileSettings, said, List.filterMap_map, List.foldl_map, List.filterMap_eq_nil_iff.mpr]
  · rfl
  · exact fun _ _ => rfl

/-- If a file says nothing, then neither do all of them. -/
theorem fileSettings_error {ps : List Path} {f : ConfigFault} (mem : p ∈ ps)
    (silent : w.fileSetting p = .error f) : ∃ fs, w.fileSettings ps = .error fs := by
  unfold fileSettings
  extract_lets sources faults
  have there : f ∈ faults :=
    List.mem_filterMap.mpr ⟨.error f, List.mem_map.mpr ⟨p, mem, silent⟩, rfl⟩
  clear_value faults
  cases faults with
  | nil => cases there
  | cons f fs => exact ⟨_, rfl⟩

end World

end ExitContract
