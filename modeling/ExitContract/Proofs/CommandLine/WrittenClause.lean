import ExitContract.Proofs.CommandLine.Clause
import ExitContract.Proofs.CommandLine.Passage
import ExitContract.Proofs.Text.WrittenNumeral

/-!
# Clauses in words of their own

A clause is written in one word: its option, and after an equals sign its value if it has
one. Words of this kind are read one by one.

**Values in their words.** A value that stands in one word with its option is taken as
it is: it may be empty, start with a hyphen or have further equals signs in it. The
option is looked up by what stands before the first one, and no option has one in its
name (`step_word`).

**One word at a time.** A word adds one thing to what was set, unless it was set before
and may not be again. So words pass if what they set is set once, whatever their order
(`passes_words`), and in the end all of it is set.

## Main definitions

* `Clause.word` — the word of a clause
* `Clause.IsWritable` — the clauses that can be written

## Main statements

* `step_word`, `passes_words` — one word, and any number of them
* `parse_words` — a whole line of them, with the name of a subcommand and a command
-/

namespace ExitContract

namespace CommandLine

open ArgumentFile (separator)

/-- The name of an output format. -/
def formatName : OutputFormat → String
  | .text => "text"
  | .json => "json"

namespace Clause

/-- The value that is written for it, if its option takes one. -/
def value? : Clause → Option Bytes
  | .config path => some (Utf8.encode path)
  | .format kind => some (Utf8.encode (formatName kind))
  | .message text => some (Utf8.encode text)
  | .expect code | .killCode code => some (Utf8.encode (toString code.toInt))
  | .directory path => some path
  | .assignment key value => some (Utf8.encode (key ++ "=" ++ value))
  | .timeout seconds => some (Utf8.encode (toString seconds.toNat))
  | .verbose | .noExpect | .failOnTimeout => none

/-- The word that sets it. -/
def word (g : Clause) : Bytes :=
  hyphen :: hyphen :: (Utf8.encode g.item.long ++
    match g.value? with
    | some value => equals :: value
    | none => [])

/-- It can be written: a directory has a name, and the name of a variable ends where its
value begins. -/
def IsWritable : Clause → Prop
  | .directory path => path ≠ []
  | .assignment key _ => '=' ∉ key.toList
  | _ => True

end Clause

variable {env : Environment} {scope : Scope} {s : Settings} {g : Clause} {value : Bytes}

/-! ### Values -/

theorem textValue_encode (text : String) : textValue (Utf8.encode text) = .ok text := by
  rw [textValue, Utf8.decode?_encode]

theorem codeValue_toString (code : Int32) :
    codeValue (toString code.toInt) = .ok code := by
  have least : -2147483648 ≤ code.toInt := Int32.le_toInt code
  have greatest : code.toInt < 2147483648 := Int32.toInt_lt code
  rw [codeValue, readInteger_toString (by simp only [maxInt64]; omega)
    (by simp only [maxInt64]; omega)]
  dsimp only
  rw [if_pos (by simp only [maxInt32]; omega), Int32.ofInt_toInt]

theorem secondsValue_toString (seconds : UInt64) :
    secondsValue (toString seconds.toNat) = .ok seconds := by
  have greatest : seconds.toNat < 2 ^ 64 := seconds.toNat_lt
  rw [secondsValue, readNatural_toString (by simp only [maxUInt64]; omega)]
  simp only [UInt64.ofNat_toNat]

theorem variableValue_append {key : String} (free : '=' ∉ key.toList) (text : String) :
    variableValue (key ++ "=" ++ text) = .ok (key, text) := by
  have other : ∀ c ∈ key.toList, (c != '=') = true := by
    intro c mem
    exact bne_iff_ne.mpr fun same => free (same ▸ mem)
  have whole : (key ++ "=" ++ text).toList = key.toList ++ '=' :: text.toList := by
    rw [String.toList_append, String.toList_append, List.append_assoc]
    rfl
  unfold variableValue
  simp only [whole]
  rw [List.takeWhile_append_of_pos other, List.dropWhile_append_of_pos other]
  simp

theorem formatValue_formatName (kind : OutputFormat) :
    formatValue (Utf8.encode (formatName kind)) = .ok kind := by
  cases kind <;> rw [formatValue, Utf8.decode?_encode] <;> rfl

/-- The value that is written for a clause sets it. -/
theorem assign_value (writable : g.IsWritable) (written : g.value? = some value) :
    s.assign g.item value = .ok (s.put g) := by
  cases g with
  | verbose | noExpect | failOnTimeout => cases written
  | config | message =>
      cases written
      simp only [Clause.item, Settings.assign, textValue_encode]
      rfl
  | format =>
      cases written
      simp only [Clause.item, Settings.assign, formatValue_formatName]
      rfl
  | expect | killCode =>
      cases written
      simp only [Clause.item, Settings.assign, textValue_encode, Except.bind,
        codeValue_toString]
      rfl
  | timeout =>
      cases written
      simp only [Clause.item, Settings.assign, textValue_encode, Except.bind,
        secondsValue_toString]
      rfl
  | assignment key text =>
      cases written
      simp only [Clause.item, Settings.assign, textValue_encode, Except.bind,
        variableValue_append writable]
      rfl
  | directory =>
      cases written
      cases value with
      | nil => exact absurd rfl writable
      | cons => rfl

/-- A clause with a value is set by its option and this value. -/
theorem give_value (writable : g.IsWritable) (written : g.value? = some value)
    (fresh : s.has g.item = true → g.item.repeatable = true) :
    Reader.give ⟨s, .nothing⟩ g.item value = .ok ⟨s.put g, .nothing⟩ := by
  have free : (s.has g.item && !g.item.repeatable) = false := by
    cases set : s.has g.item with
    | false => rfl
    | true => rw [fresh set]; rfl
  rw [Reader.give, Reader.settle, Except.bind, Settings.give, free,
    if_neg Bool.false_ne_true, assign_value writable written]
  rfl

/-- A clause without a value is set by its option alone. -/
theorem raise_flag (flag : g.value? = none)
    (fresh : s.has g.item = true → g.item.repeatable = true) :
    Reader.raise ⟨s, .nothing⟩ g.item = .ok ⟨s.put g, .nothing⟩ := by
  cases g with
  | verbose | noExpect | failOnTimeout =>
      have unset : s.has _ = false :=
        Bool.eq_false_iff.mpr fun set => absurd (fresh set) Bool.false_ne_true
      simp only [Clause.item] at unset
      simp only [Reader.raise, Reader.settle, Except.bind, Clause.item, Settings.raise,
        unset]
      rfl
  | _ => cases flag

/-! ### One word -/

theorem takesValue_item (g : Clause) : g.item.takesValue = g.value?.isSome := by
  cases g <;> rfl

/-- **The word of a clause sets it**, if it may still be set. -/
theorem step_word (writable : g.IsWritable) (known : g.item ∈ scope.items)
    (fresh : s.has g.item = true → g.item.repeatable = true) :
    step scope ⟨s, .nothing⟩ g.word = .next ⟨s.put g, .nothing⟩ := by
  have valued := takesValue_item g
  rw [step_of_mayName rfl, Clause.word]
  cases written : g.value? with
  | none =>
      rw [written] at valued
      simp only [List.append_nil]
      rw [stepByLooks_alone known, valued, Option.isSome_none, if_neg Bool.false_ne_true,
        raise_flag written fresh]
      rfl
  | some value =>
      rw [written] at valued
      simp only
      rw [stepByLooks_value known valued, give_value writable written fresh]
      rfl

/-- What is set after a clause was set before it, or is set by it. -/
theorem has_put {item : Item} (set : (s.put g).has item = true) :
    s.has item = true ∨ g.item = item := by
  cases g <;> cases item <;> first | exact .inr rfl | exact .inl set

/-- **Words of clauses pass**, if what they set may still be set. -/
theorem passes_words {gs : List Clause} (writable : ∀ g ∈ gs, g.IsWritable)
    (known : ∀ g ∈ gs, g.item ∈ scope.items) (once : Once gs)
    (fresh : ∀ g ∈ gs, s.has g.item = true → g.item.repeatable = true) :
    Passes scope ⟨s, .nothing⟩ (gs.map Clause.word)
      ⟨gs.foldl Settings.put s, .nothing⟩ := by
  induction gs generalizing s with
  | nil => exact .nil
  | cons g gs ih =>
      obtain ⟨apart, once⟩ := List.pairwise_cons.mp once
      have first := List.mem_cons_self (a := g) (l := gs)
      refine .cons (step_word (writable g first) (known g first) (fresh g first)) ?_
      refine ih (fun h mem => writable h (.tail g mem))
        (fun h mem => known h (.tail g mem)) once fun h mem set => ?_
      rcases has_put set with set | same
      · exact fresh h (.tail g mem) set
      · exact same ▸ apart h mem same

/-! ### Whole lines -/

/-- **What comes of a line** of clauses, the name of a subcommand, more clauses, the mark
and a command. -/
theorem parse_words {root sub : List Clause} (takes : scope.takesCommand = true)
    (writable : ∀ g ∈ root ++ sub, g.IsWritable)
    (knownRoot : ∀ g ∈ root, g.item ∈ Scope.root.items)
    (knownSub : ∀ g ∈ sub, g.item ∈ scope.items) (once : Once (root ++ sub))
    {a : Action} {cmd : List Bytes} (program : Bytes)
    (acted : action scope ⟨sub.foldl Settings.put {}, cmd⟩ = .ok a) :
    parse env (program :: root.map Clause.word ++
        Utf8.encode scope.name :: (sub.map Clause.word ++ separator :: cmd)) =
      .ok (request env (root.foldl Settings.put {}) (sub.foldl Settings.put {}) a) := by
  obtain ⟨onceRoot, onceSub, -⟩ := List.pairwise_append.mp once
  have unset (item : Item) :
      ({} : Settings).has item = true → item.repeatable = true := by
    cases item <;> simp [Settings.has]
  have passedRoot := passes_words
    (fun g mem => writable g (List.mem_append_left sub mem)) knownRoot onceRoot
      fun g _ => unset g.item
  have passedSub := passes_words
    (fun g mem => writable g (List.mem_append_right root mem)) knownSub onceSub
      fun g _ => unset g.item
  show readRoot env {} (root.map Clause.word ++ _) = _
  have read : readScope scope {} (sub.map Clause.word ++ separator :: cmd) =
      .ok ⟨sub.foldl Settings.put {}, cmd⟩ := by
    rw [readScope_of_passes passedSub, readScope]
    show (if scope.takesCommand then _ else _) = _
    rw [if_pos takes]
    rfl
  rw [readRoot_of_passes passedRoot, readRoot_name rfl (mem_subcommands takes),
    readSubcommand, read]
  simp only [acted]
  rfl

end CommandLine

end ExitContract
