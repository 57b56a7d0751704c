import ExitContract.CommandLine.Parser
import Mathlib.Data.List.Pairwise

/-!
# The clauses of a request

What was set in a scope, taken apart into clauses, which set one thing each, and put
together again.

**Order.** Two clauses can change places unless both are variables, because they concern
different fields of what is set. So of clauses that set nothing twice, except for
variables, only the order of the variables counts (`foldl_put_of_perm`). Variables are
kept in a list, in the order in which they were set, so the list is compared on its own,
and all the rest is compared without it.

**Two places.** What was set in one place and then in another comes to the same as if
all of it had been set in one (`foldl_put_append`). It does not count how clauses are
distributed over the places where they may stand.

## Main definitions

* `Clause` — one thing that a user sets, with its value
* `Settings.put`, `Settings.merge` — what was set with one clause more, or with all that
  was set somewhere else
* `Settings.given` — what was set of one option

## Main statements

* `foldl_put_of_perm` — what order does not count
* `foldl_put_append` — two places are like one
* `foldl_put_given` — what was set is put together again from its parts
-/

namespace ExitContract

namespace CommandLine

/-- One thing that a user sets, with its value. -/
inductive Clause
  | verbose
  | config (path : String)
  | format (kind : OutputFormat)
  | message (text : String)
  | expect (code : Int32)
  | noExpect
  | directory (path : Path)
  | assignment (key value : String)
  | timeout (seconds : UInt64)
  | killCode (code : Int32)
  | failOnTimeout
  deriving DecidableEq, Repr

namespace Clause

/-- The option that sets it. -/
def item : Clause → Item
  | .verbose => .verbose
  | .config _ => .config
  | .format _ => .format
  | .message _ => .message
  | .expect _ => .expect
  | .noExpect => .noExpect
  | .directory _ => .directory
  | .assignment _ _ => .assignment
  | .timeout _ => .timeout
  | .killCode _ => .killCode
  | .failOnTimeout => .failOnTimeout

/-- The variable that it sets, if it sets one. -/
def binding? : Clause → Option (String × String)
  | .assignment key value => some (key, value)
  | _ => none

end Clause

namespace Settings

/-- What was set, with one clause more. -/
def put (s : Settings) : Clause → Settings
  | .verbose => { s with verbose := true }
  | .config path => { s with config := some path }
  | .format kind => { s with format := some kind }
  | .message text => { s with message := some text }
  | .expect code => { s with expect := some code }
  | .noExpect => { s with noExpect := true }
  | .directory path => { s with directory := some path }
  | .assignment key value => { s with bindings := s.bindings ++ [(key, value)] }
  | .timeout seconds => { s with timeout := some seconds }
  | .killCode code => { s with killCode := some code }
  | .failOnTimeout => { s with failOnTimeout := true }

/-- What was set in one place and then in another, which counts first. -/
def merge (s t : Settings) : Settings where
  verbose := s.verbose || t.verbose
  config := t.config.or s.config
  format := t.format.or s.format
  message := t.message.or s.message
  expect := t.expect.or s.expect
  noExpect := s.noExpect || t.noExpect
  directory := t.directory.or s.directory
  bindings := s.bindings ++ t.bindings
  timeout := t.timeout.or s.timeout
  killCode := t.killCode.or s.killCode
  failOnTimeout := s.failOnTimeout || t.failOnTimeout
  file := t.file.or s.file

/-- What was set, without the variables. -/
def withoutBindings (s : Settings) : Settings := { s with bindings := [] }

/-- What was set with one clause more, without the variables. -/
def putOther (s : Settings) (g : Clause) : Settings := (s.put g).withoutBindings

/-- What was set of one option. -/
def given (s : Settings) : Item → List Clause
  | .verbose => if s.verbose then [.verbose] else []
  | .config => s.config.toList.map .config
  | .format => s.format.toList.map .format
  | .message => s.message.toList.map .message
  | .expect => s.expect.toList.map .expect
  | .noExpect => if s.noExpect then [.noExpect] else []
  | .directory => s.directory.toList.map .directory
  | .assignment => s.bindings.map fun b => .assignment b.1 b.2
  | .timeout => s.timeout.toList.map .timeout
  | .killCode => s.killCode.toList.map .killCode
  | .failOnTimeout => if s.failOnTimeout then [.failOnTimeout] else []
  | .help | .version | .file => []

/-- What was set of one option, and nothing else. -/
def only (s : Settings) : Item → Settings
  | .verbose => { verbose := s.verbose }
  | .config => { config := s.config }
  | .format => { format := s.format }
  | .message => { message := s.message }
  | .expect => { expect := s.expect }
  | .noExpect => { noExpect := s.noExpect }
  | .directory => { directory := s.directory }
  | .assignment => { bindings := s.bindings }
  | .timeout => { timeout := s.timeout }
  | .killCode => { killCode := s.killCode }
  | .failOnTimeout => { failOnTimeout := s.failOnTimeout }
  | .help | .version | .file => {}

end Settings

/-- Both may be set: they are of different options, or of one that may be repeated. -/
def Clause.Apart (g h : Clause) : Prop := g.item = h.item → g.item.repeatable = true

instance : Std.Symm Clause.Apart where
  symm _ _ apart same := same ▸ apart same.symm

/-- No two of the clauses are of one option, unless it may be repeated. -/
def Once (gs : List Clause) : Prop := gs.Pairwise Clause.Apart

variable {s t : Settings} {g h : Clause} {gs hs : List Clause}

theorem Once.of_perm (once : Once hs) (same : gs.Perm hs) : Once gs :=
  (same.pairwise_iff fun apart => Std.Symm.symm _ _ apart).mpr once

/-! ### Two places -/

@[simp] theorem merge_put (s t : Settings) (g : Clause) :
    s.merge (t.put g) = (s.merge t).put g := by
  cases g <;> simp [Settings.merge, Settings.put]

@[simp] theorem merge_empty (s : Settings) : s.merge {} = s := by
  simp [Settings.merge]

/-- Clauses count before all that was set before them. -/
theorem foldl_put_eq_merge (s : Settings) (gs : List Clause) :
    gs.foldl Settings.put s = s.merge (gs.foldl Settings.put {}) := by
  have hom : gs.foldl Settings.put (s.merge {}) = s.merge (gs.foldl Settings.put {}) :=
    List.foldl_hom s.merge fun t g => (merge_put s t g).symm
  rwa [merge_empty] at hom

/-- **Two places are like one.** -/
@[simp] theorem foldl_put_append (gs hs : List Clause) :
    (gs ++ hs).foldl Settings.put {} =
      (gs.foldl Settings.put {}).merge (hs.foldl Settings.put {}) := by
  rw [List.foldl_append, foldl_put_eq_merge]

/-! ### Order -/

theorem bindings_foldl_put (gs : List Clause) (s : Settings) :
    (gs.foldl Settings.put s).bindings = s.bindings ++ gs.filterMap Clause.binding? := by
  induction gs generalizing s with
  | nil => simp
  | cons g gs ih =>
      rw [List.foldl_cons, ih]
      cases g <;> simp [Settings.put, Clause.binding?, List.filterMap_cons]

/-- Clauses of different options can change places, and variables do if they are not looked
at. -/
theorem put_comm (apart : g.Apart h) (s : Settings) :
    ((s.put g).put h).withoutBindings = ((s.put h).put g).withoutBindings := by
  cases g <;> cases h <;> first | rfl | exact absurd (apart rfl) Bool.false_ne_true

theorem putOther_withoutBindings (s : Settings) (g : Clause) :
    s.withoutBindings.putOther g = s.putOther g := by
  cases g <;> rfl

theorem putOther_comm (apart : g.Apart h) (s : Settings) :
    (s.putOther g).putOther h = (s.putOther h).putOther g := by
  show (s.put g).withoutBindings.putOther h = (s.put h).withoutBindings.putOther g
  rw [putOther_withoutBindings, putOther_withoutBindings]
  exact put_comm apart s

theorem foldl_putOther (gs : List Clause) (s : Settings) :
    gs.foldl Settings.putOther s.withoutBindings =
      (gs.foldl Settings.put s).withoutBindings :=
  List.foldl_hom Settings.withoutBindings putOther_withoutBindings

/-- **Of the order of clauses only that of the variables counts.** -/
theorem foldl_put_of_perm (once : Once gs) (same : gs.Perm hs)
    (order : gs.filterMap Clause.binding? = hs.filterMap Clause.binding?) :
    gs.foldl Settings.put s = hs.foldl Settings.put s := by
  have comm : ∀ g ∈ gs, ∀ h ∈ gs, ∀ s : Settings,
      (s.putOther g).putOther h = (s.putOther h).putOther g := by
    intro g memG h memH s
    by_cases equal : g = h
    · rw [equal]
    · exact putOther_comm (List.Pairwise.forall once memG memH equal) s
  have others : (gs.foldl Settings.put s).withoutBindings =
      (hs.foldl Settings.put s).withoutBindings := by
    rw [← foldl_putOther, ← foldl_putOther, same.foldl_eq' comm]
  have bindings :
      (gs.foldl Settings.put s).bindings = (hs.foldl Settings.put s).bindings := by
    rw [bindings_foldl_put, bindings_foldl_put, order]
  calc gs.foldl Settings.put s
      = { (gs.foldl Settings.put s).withoutBindings with
          bindings := (gs.foldl Settings.put s).bindings } := rfl
    _ = { (hs.foldl Settings.put s).withoutBindings with
          bindings := (hs.foldl Settings.put s).bindings } := by rw [others, bindings]
    _ = hs.foldl Settings.put s := rfl

/-! ### What was set, option by option -/

theorem item_of_mem_given {item : Item} (mem : g ∈ s.given item) : g.item = item := by
  cases item <;> simp only [Settings.given] at mem <;> grind [Clause.item]

theorem foldl_put_assignments (bs : List (String × String)) (s : Settings) :
    (bs.map fun b => Clause.assignment b.1 b.2).foldl Settings.put s =
      { s with bindings := s.bindings ++ bs } := by
  induction bs generalizing s with
  | nil => simp
  | cons b bs ih =>
      rw [List.map_cons, List.foldl_cons, ih]
      simp [Settings.put]

/-- What was set of one option is put together again. -/
theorem foldl_put_given (s : Settings) (item : Item) :
    (s.given item).foldl Settings.put {} = s.only item := by
  unfold Settings.given Settings.only
  cases item with
  | assignment => exact foldl_put_assignments s.bindings {}
  | verbose => cases s.verbose <;> rfl
  | noExpect => cases s.noExpect <;> rfl
  | failOnTimeout => cases s.failOnTimeout <;> rfl
  | config => cases s.config <;> rfl
  | format => cases s.format <;> rfl
  | message => cases s.message <;> rfl
  | expect => cases s.expect <;> rfl
  | directory => cases s.directory <;> rfl
  | timeout => cases s.timeout <;> rfl
  | killCode => cases s.killCode <;> rfl
  | help | version | file => rfl

/-- What was set of several options is put together again, option by option. -/
theorem foldl_put_flatMap_given (s : Settings) (items : List Item) :
    (items.flatMap s.given).foldl Settings.put {} =
      items.foldl (fun t item => t.merge (s.only item)) {} := by
  rw [List.foldl_flatMap]
  congr 1
  funext t item
  rw [foldl_put_eq_merge, foldl_put_given]

/-- Of one option there is one clause, unless it may be repeated. -/
theorem once_given_item (s : Settings) (item : Item) : Once (s.given item) := by
  unfold Once Settings.given
  cases item with
  | assignment => exact List.pairwise_map.mpr (List.pairwise_of_forall fun _ _ _ => rfl)
  | verbose => cases s.verbose <;> simp
  | noExpect => cases s.noExpect <;> simp
  | failOnTimeout => cases s.failOnTimeout <;> simp
  | config => cases s.config <;> simp
  | format => cases s.format <;> simp
  | message => cases s.message <;> simp
  | expect => cases s.expect <;> simp
  | directory => cases s.directory <;> simp
  | timeout => cases s.timeout <;> simp
  | killCode => cases s.killCode <;> simp
  | help | version | file => exact .nil

/-- What was set of several options is set once. -/
theorem once_given (s : Settings) {items : List Item} (distinct : items.Nodup) :
    Once (items.flatMap s.given) := by
  refine List.pairwise_flatMap.mpr ⟨fun item _ => once_given_item s item, ?_⟩
  refine distinct.imp fun other g memG h memH same => absurd ?_ other
  rw [← item_of_mem_given memG, ← item_of_mem_given memH, same]

end CommandLine

end ExitContract
