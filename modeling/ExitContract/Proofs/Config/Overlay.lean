import ExitContract.Config.Value
import ExitContract.CommandLine.Parser
import ExitContract.Proofs.Keyed
import Mathlib.Data.List.Induction
import Mathlib.Data.Option.Basic

/-!
# Settings on top of each other

What several sources amount to at one place, the way to which is a list of keys.

**Place by place.** Tables are laid on top of each other by recursion over their entries.
Seen from one place, only the sources that have a setting there count, and the last of
them decides (`Setting.at?_foldl_overlay`).

**Up to tables.** Where two sources have tables at the same place, these are laid on top of
each other in turn, so what is found is neither of them. That does not matter at a place
where no table is asked for: a table that replaces something is a table, and so is a table
on top of a table. This is what `Setting.Like` leaves open.

**A clear way.** A source that has something other than a table on the way to a place hides
what weaker sources have there. Sources with which this does not happen are clear.

## Main definitions

* `Setting.Sound` — what a source can say
* `Setting.at?` — what stands at the end of a way
* `Setting.Clear` — nothing but tables stands on a way
* `Setting.Like` — the same setting, or a table in place of a table

## Main statements

* `Setting.Sound.overlay` — sound settings on top of each other are sound
* `Setting.at?_overlay` — what a stronger source changes at a place
* `Setting.at?_foldl_overlay` — the last source that has something at a place decides
* `Setting.at?_foldl_overlay_eq` — what stands at a place, tables included
-/

namespace ExitContract

/-- A scalar that a source can have: nothing is no value that can be written, and a whole
number that can be negative has 64 bits. -/
def Scalar.Sound : Scalar → Prop
  | .nothing => False
  | .signed n => n ≤ CommandLine.maxInt64
  | _ => True

namespace Setting

/-- What a source can say: the keys of tables stand in order, and the scalars in them are
ones that can be written. -/
inductive Sound : Setting → Prop
  | scalar (o : Origin) {s : Scalar} (sound : s.Sound) : Sound (.scalar o s)
  | list (o : Origin) (items : List Setting) : Sound (.list o items)
  | table (o : Origin) {es : List (String × Setting)} (order : Keyed.Ascending es)
      (entries : ∀ e ∈ es, Sound e.2) : Sound (.table o es)

/-- Whether a setting is a table. -/
def IsTable : Setting → Prop
  | .table _ _ => True
  | _ => False

/-- The same setting, or a table in place of a table. -/
def Like (v w : Setting) : Prop := v = w ∨ v.IsTable ∧ w.IsTable

/-- What stands at the end of a way through tables. -/
def at? (v : Setting) (path : List String) : Option Setting :=
  match path, v with
  | [], v => some v
  | key :: path, .table _ es =>
    match List.lookup key es with
    | some w => w.at? path
    | none => none
  | _ :: _, _ => none

/-- On the way to a place there is nothing but tables, as far as there is something. -/
def Clear (v : Setting) (path : List String) : Prop :=
  match path, v with
  | [], _ => True
  | key :: path, .table _ es =>
    match List.lookup key es with
    | some w => w.Clear path
    | none => True
  | _ :: _, _ => False

theorem sound_table_iff {o : Origin} {es : List (String × Setting)} :
    (table o es).Sound ↔ Keyed.Ascending es ∧ ∀ e ∈ es, e.2.Sound :=
  ⟨fun | .table _ order entries => ⟨order, entries⟩, fun h => .table o h.1 h.2⟩

theorem Like.refl (v : Setting) : v.Like v := .inl rfl

theorem Like.trans {u v w : Setting} (h : u.Like v) (k : v.Like w) : u.Like w := by
  rcases h with rfl | ⟨hu, hv⟩
  · exact k
  · rcases k with rfl | ⟨-, hw⟩
    · exact .inr ⟨hu, hv⟩
    · exact .inr ⟨hu, hw⟩

theorem at?_cons {v s : Setting} {key : String} {path : List String} :
    v.at? (key :: path) = some s ↔
      ∃ o es w, v = .table o es ∧ List.lookup key es = some w ∧ w.at? path = some s := by
  constructor
  · intro found
    cases v with
    | scalar | list => cases found
    | table o es =>
        rw [at?] at found
        split at found
        · next w below => exact ⟨o, es, w, rfl, below, found⟩
        · cases found
  · rintro ⟨o, es, w, rfl, below, rest⟩
    rw [at?, below]
    exact rest

/-- What stands below two keys. -/
theorem at?_two {v s : Setting} {first second : String} :
    v.at? [first, second] = some s ↔
      ∃ o es o' ts, v = .table o es ∧ List.lookup first es = some (.table o' ts) ∧
        List.lookup second ts = some s := by
  constructor
  · intro found
    obtain ⟨o, es, w, rfl, below, found⟩ := at?_cons.mp found
    obtain ⟨o', ts, _, rfl, last, found⟩ := at?_cons.mp found
    cases found
    exact ⟨o, es, o', ts, rfl, below, last⟩
  · rintro ⟨o, es, o', ts, rfl, below, last⟩
    exact at?_cons.mpr ⟨o, es, _, rfl, below, at?_cons.mpr ⟨o', ts, s, rfl, last, rfl⟩⟩

/-- What stands in sound settings is sound. -/
theorem Sound.at? {v s : Setting} {path : List String} (h : v.Sound)
    (found : v.at? path = some s) : s.Sound := by
  induction path generalizing v with
  | nil =>
      cases found
      exact h
  | cons key path ih =>
      obtain ⟨o, es, w, rfl, below, found⟩ := at?_cons.mp found
      exact ih ((sound_table_iff.mp h).2 _ (Keyed.mem_of_lookup below)) found

/-- What is on top is what is seen. -/
theorem like_overlay (weak strong : Setting) : (weak.overlay strong).Like strong := by
  cases strong with
  | scalar | list => exact .refl _
  | table o es =>
      cases weak with
      | table => exact .inr ⟨trivial, trivial⟩
      | scalar | list => exact .refl _

/-! ### One source on top of others -/

section

variable {weak strong : List (String × Setting)} {key : String}

/-- A setting with a stronger one on top of it, if there is a weaker one. -/
def onTop (weak : Option Setting) (strong : Setting) : Setting :=
  match weak with
  | some w => w.overlay strong
  | none => strong

theorem like_onTop (weak : Option Setting) (strong : Setting) :
    (onTop weak strong).Like strong := by
  cases weak with
  | none => exact .refl _
  | some w => exact like_overlay w strong

@[simp] theorem overlayEntries_cons (s : Setting) (rest : List (String × Setting)) :
    overlayEntries weak ((key, s) :: rest) =
      overlayEntries (Keyed.insert key (onTop (List.lookup key weak) s) weak) rest := by
  rw [overlayEntries]
  cases List.lookup key weak <;> rfl

/-- What is found in entries with others on top of them. -/
theorem lookup_overlayEntries (order : Keyed.Ascending strong) :
    List.lookup key (overlayEntries weak strong) =
      match List.lookup key strong with
      | some s => some (onTop (List.lookup key weak) s)
      | none => List.lookup key weak := by
  induction strong generalizing weak with
  | nil => rfl
  | cons e rest ih =>
      obtain ⟨k, s⟩ := e
      have later := @ih (Keyed.insert k (onTop (List.lookup k weak) s) weak)
        (List.Pairwise.of_cons order)
      by_cases here : key = k
      · subst here
        simp [later, Keyed.lookup_eq_none_of_distinct order.distinct]
      · simp [later, here]

/-- Sound entries on top of sound entries, where each of the former may be laid on top of
whatever is sound. -/
theorem sound_overlayEntries
    (weakOrder : Keyed.Ascending weak) (weakSound : ∀ e ∈ weak, Sound e.2)
    (strongSound : ∀ e ∈ strong, Sound e.2)
    (onSound : ∀ e ∈ strong, ∀ w : Setting, w.Sound → (w.overlay e.2).Sound) :
    Keyed.Ascending (overlayEntries weak strong) ∧
      ∀ e ∈ overlayEntries weak strong, Sound e.2 := by
  induction strong generalizing weak with
  | nil => exact ⟨weakOrder, weakSound⟩
  | cons e rest ih =>
      obtain ⟨k, s⟩ := e
      rw [overlayEntries_cons]
      have put : (onTop (List.lookup k weak) s).Sound := by
        cases found : List.lookup k weak with
        | none => exact strongSound _ List.mem_cons_self
        | some w =>
            exact onSound _ List.mem_cons_self w (weakSound _ (Keyed.mem_of_lookup found))
      refine ih (weakOrder.insert k _) ?_
        (fun e mem => strongSound e (List.mem_cons_of_mem _ mem))
        (fun e mem => onSound e (List.mem_cons_of_mem _ mem))
      intro e mem
      rcases Keyed.mem_insert mem with rfl | old
      · exact put
      · exact weakSound e old

/-- **Sound settings on top of each other are sound.** -/
theorem Sound.overlay {u v : Setting} (hu : u.Sound) (hv : v.Sound) : (u.overlay v).Sound := by
  induction hv generalizing u with
  | scalar o sound => exact .scalar o sound
  | list o items => exact .list o items
  | @table o es order entries ih =>
      cases hu with
      | scalar | list => exact .table o order entries
      | table _ weakOrder weakEntries =>
          obtain ⟨bothOrder, both⟩ := sound_overlayEntries weakOrder weakEntries entries
            fun e mem w hw => ih e mem hw
          exact .table o bothOrder both

end

section

variable {u v : Setting} {path : List String}

/-- **What a stronger source changes at a place**, if the way is clear in it: what it has
there comes on top, and if it has nothing there, all is as before. -/
theorem at?_overlay (sound : v.Sound) (clear : v.Clear path) :
    (u.overlay v).at? path =
      match v.at? path with
      | some s => some (onTop (u.at? path) s)
      | none => u.at? path := by
  induction path generalizing u v with
  | nil => rfl
  | cons key path ih =>
      cases sound with
      | scalar | list => exact clear.elim
      | @table o es order entries =>
          cases u with
          | scalar | list =>
              show (table o es).at? (key :: path) = _
              cases (table o es).at? (key :: path) <;> rfl
          | table _ weak =>
              rw [overlay, at?, at?, at?, lookup_overlayEntries order]
              rw [Clear] at clear
              cases found : List.lookup key es with
              | none => rfl
              | some s =>
                  rw [found] at clear
                  have sound := entries _ (Keyed.mem_of_lookup found)
                  cases List.lookup key weak with
                  | none =>
                      dsimp only [onTop]
                      cases s.at? path <;> rfl
                  | some w => exact ih sound clear

/-- A way that is clear in two sources is clear when one is on top of the other. -/
theorem Clear.overlay (hu : u.Clear path) (hv : v.Clear path) (sound : v.Sound) :
    (u.overlay v).Clear path := by
  induction path generalizing u v with
  | nil => trivial
  | cons key path ih =>
      cases sound with
      | scalar | list => exact hv.elim
      | @table o es order entries =>
          cases u with
          | scalar | list => exact hv
          | table _ weak =>
              rw [Setting.overlay, Clear, lookup_overlayEntries order]
              rw [Clear] at hu hv
              cases found : List.lookup key es with
              | none => exact hu
              | some s =>
                  rw [found] at hv
                  cases below : List.lookup key weak with
                  | none => exact hv
                  | some w =>
                      rw [below] at hu
                      exact ih hu hv (entries _ (Keyed.mem_of_lookup found))

/-- What the sources of a list have at a place, the weakest first. -/
def allAt (vs : List Setting) (path : List String) : List Setting :=
  vs.filterMap fun v => v.at? path

theorem getLast?_allAt_concat (vs : List Setting) (v : Setting) (path : List String) :
    (allAt (vs ++ [v]) path).getLast? = (v.at? path).or (allAt vs path).getLast? := by
  rw [allAt, List.filterMap_append, List.getLast?_append]
  cases h : v.at? path <;> simp [h, allAt]

/-- **The last source that has something at a place decides.** -/
theorem at?_foldl_overlay (base : Setting) {vs : List Setting} (sound : ∀ v ∈ vs, v.Sound)
    (clear : ∀ v ∈ vs, v.Clear path) :
    Option.Rel Like ((vs.foldl overlay base).at? path) (allAt (base :: vs) path).getLast? := by
  -- The last source is the one on top, so it is taken off first.
  induction vs using List.reverseRecOn with
  | nil =>
      rw [List.foldl_nil, allAt, List.filterMap_cons]
      cases base.at? path with
      | none => exact .none
      | some s => exact .some (.refl s)
  | append_singleton vs v ih =>
      have last : v ∈ vs ++ [v] := List.mem_append_right _ List.mem_cons_self
      have before := ih (fun v mem => sound v (List.mem_append_left _ mem))
        (fun v mem => clear v (List.mem_append_left _ mem))
      rw [List.foldl_append, List.foldl_cons, List.foldl_nil,
        at?_overlay (sound v last) (clear v last), ← List.cons_append, getLast?_allAt_concat]
      cases v.at? path with
      | none => exact before
      | some s => exact .some (like_onTop _ s)

/-- **What stands at a place** is what the sources have there, on top of each other. -/
theorem at?_foldl_overlay_eq (base : Setting) {vs : List Setting} (sound : ∀ v ∈ vs, v.Sound)
    (clear : ∀ v ∈ vs, v.Clear path) :
    (vs.foldl overlay base).at? path =
      (allAt vs path).foldl (fun weak s => some (onTop weak s)) (base.at? path) := by
  induction vs generalizing base with
  | nil => rfl
  | cons v vs ih =>
      obtain ⟨first, sound⟩ := List.forall_mem_cons.mp sound
      obtain ⟨way, clear⟩ := List.forall_mem_cons.mp clear
      rw [List.foldl_cons, ih (base.overlay v) sound clear, at?_overlay first way, allAt, allAt,
        List.filterMap_cons]
      cases v.at? path <;> rfl

theorem Clear.foldl_overlay {base : Setting} {vs : List Setting} (hb : base.Clear path)
    (clear : ∀ v ∈ vs, v.Clear path) (sound : ∀ v ∈ vs, v.Sound) :
    (vs.foldl Setting.overlay base).Clear path := by
  induction vs generalizing base with
  | nil => exact hb
  | cons v vs ih =>
      have first : v ∈ v :: vs := List.mem_cons_self
      exact ih (hb.overlay (clear v first) (sound v first))
        (fun v mem => clear v (List.mem_cons_of_mem _ mem))
        fun v mem => sound v (List.mem_cons_of_mem _ mem)

theorem Sound.foldl_overlay {base : Setting} {vs : List Setting} (hb : base.Sound)
    (sound : ∀ v ∈ vs, v.Sound) : (vs.foldl Setting.overlay base).Sound := by
  induction vs generalizing base with
  | nil => exact hb
  | cons v vs ih =>
      exact ih (hb.overlay (sound v List.mem_cons_self))
        fun v mem => sound v (List.mem_cons_of_mem _ mem)

end

end Setting

end ExitContract
