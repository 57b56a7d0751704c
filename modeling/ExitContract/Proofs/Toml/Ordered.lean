import ExitContract.Proofs.Keyed
import ExitContract.Toml.Reader

/-!
# What a document holds

Whatever text is read as a document, its tables have their keys in order, none of them
twice, and its whole numbers have 64 bits.

**While it is read.** The statements of a document change a tree of nodes, one after the
other. Every change puts one entry in its place in a table on the way, so order is kept by
each of them. Arrays of tables are kept apart: nothing is said of their items, because no
later part of the program looks into them.

## Main definitions

* `Toml.Value.Sound`, `Toml.Node.Sound` — order in every table that is not inside an array

## Main statements

* `Toml.Document.sound_of_entries?` — sound pairs build a sound document
* `Toml.readsSound` — the values that are read are sound
* `Toml.sound_of_parse?` — so is every document
-/

namespace ExitContract

namespace Toml

open Keyed (Ascending)

/-- The keys of every table stand in order, and whole numbers have 64 bits. -/
inductive Value.Sound : Value → Prop
  | text (s : String) : Sound (.text s)
  | integer {n : Int} (bound : n ≤ maxInteger) : Sound (.integer n)
  | real (x : Binary64) : Sound (.real x)
  | boolean (b : Bool) : Sound (.boolean b)
  | moment (written : String) : Sound (.moment written)
  | list (items : List Value) : Sound (.list items)
  | table {es : List (String × Value)} (order : Ascending es)
      (entries : ∀ e ∈ es, Sound e.2) : Sound (.table es)

/-- The same of what names stand for while a document is read. -/
inductive Node.Sound : Node → Prop
  | value {v : Value} (sound : v.Sound) : Sound (.value v)
  | table (implicit dotted : Bool) {es : List (String × Node)} (order : Ascending es)
      (entries : ∀ e ∈ es, Sound e.2) : Sound (.table implicit dotted es)
  | tables (items : List Node) : Sound (.tables items)

namespace Node

theorem freezeEntries_eq_map (es : List (String × Node)) :
    freezeEntries es = es.map fun e => (e.1, e.2.freeze) := by
  induction es with
  | nil => rfl
  | cons e es ih =>
      obtain ⟨k, n⟩ := e
      rw [freezeEntries, ih, List.map_cons]

/-- Values of entries in order are in order. -/
theorem ascending_freezeEntries {es : List (String × Node)} (order : Ascending es) :
    Ascending (freezeEntries es) := by
  rw [freezeEntries_eq_map]
  exact order.map

theorem Sound.freeze {n : Node} (h : n.Sound) : n.freeze.Sound := by
  induction h with
  | value sound => exact sound
  | tables items => exact .list _
  | table _ _ order _ ih =>
      refine .table (ascending_freezeEntries order) fun e mem => ?_
      rw [freezeEntries_eq_map] at mem
      obtain ⟨f, there, rfl⟩ := List.mem_map.mp mem
      exact ih f there

section

variable {n c : Node} {key : String} {v : Value}

theorem Sound.ascending_entries (h : n.Sound) : Ascending n.entries := by
  cases h with
  | table _ _ order => exact order
  | value | tables => exact Keyed.ascending_nil

theorem Sound.of_mem_entries (h : n.Sound) {e : String × Node} (mem : e ∈ n.entries) :
    e.2.Sound := by
  cases h with
  | table _ _ _ entries => exact entries e mem
  | value | tables => cases mem

theorem Sound.of_lookup (h : n.Sound) (found : List.lookup key n.entries = some c) :
    c.Sound :=
  h.of_mem_entries (Keyed.mem_of_lookup found)

theorem sound_empty (implicit dotted : Bool) : (Node.table implicit dotted []).Sound :=
  .table implicit dotted Keyed.ascending_nil nofun

/-- Putting a sound node in its place keeps order. -/
theorem Sound.withEntry (h : n.Sound) (key : String) (hc : c.Sound) :
    (n.withEntries (Keyed.insert key c n.entries)).Sound := by
  cases h with
  | value sound => exact .value sound
  | tables items => exact .tables items
  | table implicit dotted order entries =>
      refine .table implicit dotted (order.insert key c) fun e mem => ?_
      rcases Keyed.mem_insert mem with rfl | old
      · exact hc
      · exact entries e old

theorem Sound.putHere {n' : Node} {byPath : Bool} (h : n.Sound) (hv : v.Sound)
    (put : n.putHere byPath key v = some n') : n'.Sound := by
  cases n with
  | value | tables => cases put
  | table implicit dotted es =>
      rw [Node.putHere] at put
      split at put
      · cases put
      · split at put
        · cases put
        · cases put
          exact h.withEntry key (.value hv)

/-- Giving a dotted key a sound value keeps order. -/
theorem Sound.put {n' : Node} {path : List String} {byPath : Bool} (h : n.Sound)
    (hv : v.Sound) (put : n.put key v path byPath = some n') : n'.Sound := by
  induction path generalizing n n' byPath with
  | nil => exact h.putHere hv put
  | cons k ks ih =>
      unfold Node.put at put
      split at put
      · obtain ⟨c, made, rfl⟩ := Option.map_eq_some_iff.mp put
        exact h.withEntry k (ih (sound_empty true true) made)
      · next dotted es found =>
          obtain ⟨c, made, rfl⟩ := Option.map_eq_some_iff.mp put
          exact h.withEntry k (ih (h.of_lookup found) made)
      · split at put
        · cases put
        · obtain ⟨c, -, rfl⟩ := Option.map_eq_some_iff.mp put
          exact h.withEntry k (.tables _)
      · cases put

/-- Changing what a header names keeps order, if what is put in its place is sound. -/
theorem Sound.change {n' : Node} {f : Option Node → Option Node} {path : List String}
    (hf : ∀ m c, (∀ old, m = some old → old.Sound) → f m = some c → c.Sound) (h : n.Sound)
    (changed : n.change f path = some n') : n'.Sound := by
  induction path generalizing n n' with
  | nil => cases changed
  | cons k ks ih =>
      cases ks with
      | nil =>
          obtain ⟨c, made, rfl⟩ := Option.map_eq_some_iff.mp changed
          exact h.withEntry k (hf _ c (fun _ found => h.of_lookup found) made)
      | cons k' ks =>
          unfold Node.change at changed
          split at changed
          · obtain ⟨c, made, rfl⟩ := Option.map_eq_some_iff.mp changed
            exact h.withEntry k (ih (sound_empty true false) made)
          · next implicit dotted es found =>
              obtain ⟨c, made, rfl⟩ := Option.map_eq_some_iff.mp changed
              exact h.withEntry k (ih (h.of_lookup found) made)
          · split at changed
            · cases changed
            · obtain ⟨c, -, rfl⟩ := Option.map_eq_some_iff.mp changed
              exact h.withEntry k (.tables _)
          · cases changed

/-- Putting sound pairs into a sound table makes a sound table. -/
theorem Sound.fill {n' : Node} {pairs : List Pair} (h : n.Sound)
    (values : ∀ p ∈ pairs, p.value.Sound) (filled : n.fill pairs = some n') : n'.Sound := by
  induction pairs generalizing n with
  | nil =>
      cases filled
      exact h
  | cons p pairs ih =>
      rw [Node.fill, List.foldlM_cons] at filled
      obtain ⟨m, put, rest⟩ := Option.bind_eq_some_iff.mp filled
      exact ih (h.put (values p List.mem_cons_self) put)
        (fun p mem => values p (List.mem_cons_of_mem _ mem)) rest

end

end Node

/-- What stands at the name of a section is sound. -/
theorem Section.sound_place {s : Section} {m : Option Node} {n : Node}
    (values : ∀ p ∈ s.pairs, p.value.Sound) (old : ∀ o, m = some o → o.Sound)
    (placed : s.place m = some n) : n.Sound := by
  have opened {start n : Node} (sound : start.Sound) (filled : start.fill s.pairs = some n) :
      n.Sound := sound.fill values filled
  unfold Section.place at placed
  split at placed
  · obtain ⟨n, filled, rfl⟩ := Option.map_eq_some_iff.mp placed
    split
    · exact .tables _
    · exact opened (Node.sound_empty false false) filled
  · split at placed
    · obtain ⟨n, -, rfl⟩ := Option.map_eq_some_iff.mp placed
      exact .tables _
    · cases placed
  · next es =>
      split at placed
      · cases placed
      · cases old _ rfl with
        | table _ _ order entries => exact opened (.table false false order entries) placed
  · cases placed

/-- Sections with sound pairs keep a document sound. -/
theorem Node.Sound.sections {n n' : Node} {sections : List Section} (h : n.Sound)
    (values : ∀ s ∈ sections, ∀ p ∈ s.pairs, p.value.Sound)
    (placed : sections.foldlM (fun n s => n.change s.place s.path) n = some n') :
    n'.Sound := by
  induction sections generalizing n with
  | nil =>
      cases placed
      exact h
  | cons s sections ih =>
      rw [List.foldlM_cons] at placed
      obtain ⟨m, changed, rest⟩ := Option.bind_eq_some_iff.mp placed
      have place := values s List.mem_cons_self
      exact ih (h.change (fun _ _ old made => s.sound_place place old made) changed)
        (fun s mem => values s (List.mem_cons_of_mem _ mem)) rest

/-- **Sound pairs build a sound document.** -/
theorem Document.sound_of_entries? {d : Document} {es : List (String × Value)}
    (pairs : ∀ p ∈ d.pairs, p.value.Sound)
    (sections : ∀ s ∈ d.sections, ∀ p ∈ s.pairs, p.value.Sound)
    (built : d.entries? = some es) : (Value.table es).Sound := by
  obtain ⟨first, filled, rest⟩ := Option.bind_eq_some_iff.mp built
  obtain ⟨root, placed, frozen⟩ := Option.bind_eq_some_iff.mp rest
  cases frozen
  have sound : root.Sound :=
    ((Node.sound_empty false false).fill pairs filled).sections sections placed
  refine .table (Node.ascending_freezeEntries sound.ascending_entries) fun e mem => ?_
  rw [Node.freezeEntries_eq_map] at mem
  obtain ⟨f, there, rfl⟩ := List.mem_map.mp mem
  exact (sound.of_mem_entries there).freeze

/-- The table that sound pairs build is sound. -/
theorem sound_of_inlineTable? {pairs : List Pair} {v : Value}
    (values : ∀ p ∈ pairs, p.value.Sound) (built : inlineTable? pairs = some v) : v.Sound := by
  obtain ⟨n, filled, rfl⟩ := Option.map_eq_some_iff.mp built
  exact ((Node.sound_empty false false).fill values filled).freeze

/-! ### Reading values -/

/-- Whole numbers of a document are in its range. -/
theorem sound_of_integer? {negative : Bool} {n : Nat} {v : Value}
    (read : integer? negative n = some v) : v.Sound := by
  unfold integer? at read
  split at read
  · split at read
    · cases read
      exact .integer (by omega)
    · cases read
  · split at read
    · cases read
      exact .integer (by omega)
    · cases read

theorem sound_of_real? {negative : Bool} {digits : Nat} {exponent : Int} {v : Value}
    (read : real? negative digits exponent = some v) : v.Sound := by
  unfold real? at read
  split at read
  · cases read
  · cases read
    exact .real _

theorem sound_of_readBased? {base : Nat} {cs rest : List Char} {v : Value}
    (read : readBased? base cs = some (v, rest)) : v.Sound := by
  unfold readBased? at read
  obtain ⟨⟨ds, tail⟩, -, read⟩ := Option.bind_eq_some_iff.mp read
  obtain ⟨w, whole, read⟩ := Option.bind_eq_some_iff.mp read
  cases read
  exact sound_of_integer? whole

theorem sound_of_readFraction? {negative : Bool} {whole cs rest : List Char} {v : Value}
    (read : readFraction? negative whole cs = some (v, rest)) : v.Sound := by
  unfold readFraction? at read
  extract_lets withExponent at read
  have sound {fraction after rest : List Char}
      (read : withExponent fraction after = some (v, rest)) : v.Sound := by
    unfold withExponent at read
    extract_lets digits finish at read
    have finished {scaled : Int × List Char} (read : finish scaled = some (v, rest)) :
        v.Sound := by
      unfold finish at read
      obtain ⟨w, made, read⟩ := Option.bind_eq_some_iff.mp read
      cases read
      exact sound_of_real? made
    clear_value finish
    split at read
    all_goals
      obtain ⟨scaled, -, read⟩ := Option.bind_eq_some_iff.mp read
      exact finished read
  clear_value withExponent
  split at read
  · obtain ⟨⟨fs, tail⟩, -, read⟩ := Option.bind_eq_some_iff.mp read
    exact sound read
  · exact sound read
  · exact sound read
  · obtain ⟨w, made, read⟩ := Option.map_eq_some_iff.mp read
    cases read
    exact sound_of_integer? made

theorem sound_of_readUnsigned? {negative : Bool} {cs rest : List Char} {v : Value}
    (read : readUnsigned? negative cs = some (v, rest)) : v.Sound := by
  unfold readUnsigned? at read
  split at read
  · cases read
    exact .real _
  · cases read
    exact .real _
  · obtain ⟨⟨ds, tail⟩, -, read⟩ := Option.bind_eq_some_iff.mp read
    dsimp only at read
    split at read
    · cases read
    · exact sound_of_readFraction? read

theorem sound_of_readNumber? {cs rest : List Char} {v : Value}
    (read : readNumber? cs = some (v, rest)) : v.Sound := by
  unfold readNumber? at read
  split at read
  · exact sound_of_readBased? read
  · exact sound_of_readBased? read
  · exact sound_of_readBased? read
  · exact sound_of_readUnsigned? read
  · exact sound_of_readUnsigned? read
  · exact sound_of_readUnsigned? read

/-- A fixed word is read as its value. -/
theorem eq_of_readWord? {word : String} {value v : Value} {cs rest : List Char}
    (read : readWord? word value cs = some (v, rest)) : v = value := by
  unfold readWord? at read
  split at read
  · cases read
    rfl
  · cases read

/-- What is read with so much fuel is sound: values, pairs and the pairs of inline tables,
the readers of which call each other with less fuel. -/
structure ReadsSound (fuel : Nat) : Prop where
  value : ∀ {depth cs v rest}, readValue? fuel depth cs = some (v, rest) → v.Sound
  pair : ∀ {depth cs p rest}, readPair? fuel depth cs = some (p, rest) → p.value.Sound
  pairs : ∀ {depth cs ps rest}, readPairs? fuel depth cs = some (ps, rest) →
    ∀ p ∈ ps, p.value.Sound

section

variable {fuel depth : Nat} {cs rest : List Char}

theorem ReadsSound.next_value (h : ReadsSound fuel) {v : Value}
    (read : readValue? (fuel + 1) depth cs = some (v, rest)) : v.Sound := by
  unfold readValue? at read
  split at read
  · obtain ⟨⟨s, tail⟩, -, read⟩ := Option.map_eq_some_iff.mp read
    cases read
    exact .text s
  · obtain ⟨⟨s, tail⟩, -, read⟩ := Option.map_eq_some_iff.mp read
    cases read
    exact .text s
  · split at read
    · cases read
    · obtain ⟨⟨items, tail⟩, -, read⟩ := Option.map_eq_some_iff.mp read
      cases read
      exact .list items
  · split at read
    · cases read
    · split at read
      · obtain ⟨t, built, read⟩ := Option.map_eq_some_iff.mp read
        cases read
        exact sound_of_inlineTable? (fun _ mem => absurd mem List.not_mem_nil) built
      · split at read
        · cases read
        · next found =>
            obtain ⟨t, built, read⟩ := Option.map_eq_some_iff.mp read
            cases read
            exact sound_of_inlineTable? (h.pairs found) built
  · rw [eq_of_readWord? read]
    exact .boolean true
  · rw [eq_of_readWord? read]
    exact .boolean false
  · split at read
    · obtain ⟨tail, -, read⟩ := Option.map_eq_some_iff.mp read
      cases read
      exact .moment _
    · exact sound_of_readNumber? read

theorem ReadsSound.next_pair (h : ReadsSound fuel) {p : Pair}
    (read : readPair? (fuel + 1) depth cs = some (p, rest)) : p.value.Sound := by
  unfold readPair? at read
  split at read
  · cases read
  · split at read
    · split at read
      · cases read
      · next found =>
          cases read
          exact h.value found
    · cases read

theorem ReadsSound.next_pairs (h : ReadsSound fuel) {ps : List Pair}
    (read : readPairs? (fuel + 1) depth cs = some (ps, rest)) : ∀ p ∈ ps, p.value.Sound := by
  unfold readPairs? at read
  split at read
  · cases read
  · next first tail found =>
      have here := h.pair found
      split at read
      · obtain ⟨⟨more, tail⟩, later, read⟩ := Option.map_eq_some_iff.mp read
        cases read
        exact List.forall_mem_cons.mpr ⟨here, h.pairs later⟩
      · cases read
        exact List.forall_mem_singleton.mpr here
      · cases read

/-- **What is read is sound**, whatever the fuel. -/
theorem readsSound (fuel : Nat) : ReadsSound fuel := by
  induction fuel with
  | zero =>
      refine ⟨fun read => ?_, fun read => ?_, fun read => ?_⟩
      · rw [readValue?] at read
        cases read
      · rw [readPair?] at read
        cases read
      · rw [readPairs?] at read
        cases read
  | succ fuel ih => exact ⟨ih.next_value, ih.next_pair, ih.next_pairs⟩

end

/-! ### Reading documents -/

/-- The pairs of a document that is read are sound. -/
theorem sound_of_readStatements? {fuel : Nat} {cs : List Char} {d : Document}
    (read : readStatements? fuel cs = some d) :
    (∀ p ∈ d.pairs, p.value.Sound) ∧ ∀ s ∈ d.sections, ∀ p ∈ s.pairs, p.value.Sound := by
  induction fuel generalizing cs d with
  | zero => cases read
  | succ fuel ih =>
      unfold readStatements? at read
      split at read
      · cases read
        exact ⟨nofun, nofun⟩
      · obtain ⟨⟨inArray, path, tail⟩, -, read⟩ := Option.bind_eq_some_iff.mp read
        obtain ⟨tail, -, read⟩ := Option.bind_eq_some_iff.mp read
        obtain ⟨d', later, read⟩ := Option.bind_eq_some_iff.mp read
        cases read
        obtain ⟨pairs, sections⟩ := ih later
        refine ⟨nofun, fun s mem => ?_⟩
        rcases List.mem_cons.mp mem with rfl | mem
        · exact pairs
        · exact sections s mem
      · obtain ⟨⟨pair, tail⟩, first, read⟩ := Option.bind_eq_some_iff.mp read
        obtain ⟨tail, -, read⟩ := Option.bind_eq_some_iff.mp read
        obtain ⟨d', later, read⟩ := Option.bind_eq_some_iff.mp read
        cases read
        obtain ⟨pairs, sections⟩ := ih later
        refine ⟨fun p mem => ?_, sections⟩
        rcases List.mem_cons.mp mem with rfl | mem
        · exact (readsSound _).pair first
        · exact pairs p mem

/-- **Every document is sound.** -/
theorem sound_of_parse? {text : String} {es : List (String × Value)}
    (parsed : parse? text = some es) : (Value.table es).Sound := by
  obtain ⟨d, read, built⟩ := Option.bind_eq_some_iff.mp parsed
  have sound : (∀ p ∈ d.pairs, p.value.Sound) ∧
      ∀ s ∈ d.sections, ∀ p ∈ s.pairs, p.value.Sound := by
    unfold readDocument? at read
    split at read <;> exact sound_of_readStatements? read
  exact d.sound_of_entries? sound.1 sound.2 built

end Toml

end ExitContract
