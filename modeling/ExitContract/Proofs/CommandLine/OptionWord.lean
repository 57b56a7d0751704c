import ExitContract.ArgumentFile
import ExitContract.CommandLine.Parser
import ExitContract.Log.Record
import ExitContract.Proofs.Text.ReadText
import Mathlib.Data.List.TakeWhile

/-!
# Which words are options

The spellings of options, said without a reader, and that the reader goes on with these
and no others.

**One word, perhaps two.** An option that takes a value has it in its own word or in the
next one. So what a word spells is told together with what it leaves open, nothing or an
option that waits (`Scope.IsOption`). Letters of several options may share a word, and
then only the last of them can take a value (`Cluster`).

**Words that only look like options.** A scope that takes a command passes them on to
it: a long name that no option has, and letters if one of the word is no option's, the
letters of a value included. A scope that takes none refuses them. Letters before octets
that are no text are refused there as well, though the options may be known, because
whatever has a value in such a scope has a text for it (`readBrokenCluster_ne_ok`).

**Options first deal with what is pending.** Whether a word is an option is known from
its looks. Whether the reader goes on is not, for the option may be set already or its
value of the wrong kind. But if it goes on, then what was pending before could be dealt
with (`Goes`).

## Main definitions

* `Cluster`, `Scope.IsOption` — the spellings of options
* `Scope.IsPlain` — a word that is no option of a scope by its looks
* `Scope.AreOptions` — options with their values, word by word
* `Goes` — what becomes of a reader at an option

## Main statements

* `stepByLooks_of_isOption`, `stepByLooks_of_isPlain` — what a reader makes of such words
* `stepLong_found`, `stepShort_found` — a word with hyphens is plain or refused otherwise
-/

namespace ExitContract

namespace CommandLine

open ArgumentFile (separator)

/-! ### Spellings -/

/-- Letters that share a word: those of options without a value, up to one with a value
which the letters after it are. If none are left, then this option waits for its
value. -/
inductive Cluster (scope : Scope) : List Char → Option Item → Prop
  | flag {c : Char} {item : Item} : scope.short? c = some item →
      item.takesValue = false → Cluster scope [c] none
  | cons {c : Char} {cs : List Char} {item : Item} {waiting : Option Item} :
      scope.short? c = some item → item.takesValue = false → Cluster scope cs waiting →
        Cluster scope (c :: cs) waiting
  | asking {c : Char} {item : Item} : scope.short? c = some item →
      item.takesValue = true → Cluster scope [c] (some item)
  | valued {c d : Char} {cs : List Char} {item : Item} : scope.short? c = some item →
      item.takesValue = true → Cluster scope (c :: d :: cs) none

/-- The word spells an option of the scope, which waits for its value or does not. -/
inductive Scope.IsOption (scope : Scope) : Bytes → Option Item → Prop
  | flag {item : Item} : item ∈ scope.items → item.takesValue = false →
      IsOption scope (hyphen :: hyphen :: Utf8.encode item.long) none
  | asking {item : Item} : item ∈ scope.items → item.takesValue = true →
      IsOption scope (hyphen :: hyphen :: Utf8.encode item.long) (some item)
  | valued {item : Item} (value : Bytes) : item ∈ scope.items →
      item.takesValue = true →
        IsOption scope (hyphen :: hyphen :: (Utf8.encode item.long ++ equals :: value)) none
  | letters {cs : List Char} {waiting : Option Item} : Cluster scope cs waiting →
      (scope.takesCommand = true → ∀ c ∈ cs, (scope.short? c).isSome = true) →
        IsOption scope (hyphen :: Utf8.encodeChars cs) waiting

/-- By its looks the word is no option of the scope, nor the mark before a command: it
does not start with a hyphen, or is nothing else, or spells an option that there is not
where a command may start. -/
inductive Scope.IsPlain (scope : Scope) : Bytes → Prop
  | empty : IsPlain scope []
  | hyphen : IsPlain scope [hyphen]
  | unmarked {b : UInt8} {bs : Bytes} : b ≠ CommandLine.hyphen → IsPlain scope (b :: bs)
  | long {b : UInt8} {bs : Bytes} {name : String} : scope.takesCommand = true →
      Utf8.decode? ((b :: bs).takeWhile (· != equals)) = some name →
        scope.long? name = none →
          IsPlain scope (CommandLine.hyphen :: CommandLine.hyphen :: b :: bs)
  | short {b : UInt8} {bs : Bytes} : scope.takesCommand = true →
      b ≠ CommandLine.hyphen →
        (∀ cs, Utf8.decodeChars? (b :: bs) = some cs → ∃ c ∈ cs, scope.short? c = none) →
          IsPlain scope (CommandLine.hyphen :: b :: bs)

/-- The word may be the value of an option: any word of some, and of the others one that
does not look like an option itself. -/
def Scope.IsValue (scope : Scope) (item : Item) (word : Bytes) : Prop :=
  item.hyphenValue = true ∨ scope.IsPlain word

/-- The words are options, with the values of those that wait for one. -/
inductive Scope.AreOptions (scope : Scope) : List Bytes → Prop
  | nil : AreOptions scope []
  | alone {word : Bytes} {words : List Bytes} : scope.IsOption word none →
      AreOptions scope words → AreOptions scope (word :: words)
  | valued {word value : Bytes} {words : List Bytes} {item : Item} :
      scope.IsOption word (some item) → scope.IsValue item value →
        AreOptions scope words → AreOptions scope (word :: value :: words)

/-- What becomes of a reader at an option: what was pending is dealt with, and it waits
for a value or for nothing. -/
structure Goes (r : Reader) (waiting : Option Item) (r' : Reader) : Prop where
  settled : ∃ s, r.settle = .ok s
  pending : r'.pending = waiting.elim .nothing .awaiting

variable {scope : Scope} {r r' : Reader} {word : Bytes} {item : Item}
  {waiting : Option Item}

theorem not_isPlain_separator : ¬ scope.IsPlain separator := by
  intro plain
  cases plain with
  | unmarked first => exact first rfl
  | short _ second => exact second rfl

/-! ### What an option does -/

theorem goes_of_give {value : Bytes} (given : r.give item value = .ok r') :
    Goes r none r' := by
  obtain ⟨s, settled, rest⟩ := bind_eq_ok_iff.mp given
  obtain ⟨s', -, rfl⟩ := map_eq_ok_iff.mp rest
  exact ⟨⟨s, settled⟩, rfl⟩

theorem goes_of_raise (raised : r.raise item = .ok r') : Goes r none r' := by
  obtain ⟨s, settled, rest⟩ := bind_eq_ok_iff.mp raised
  obtain ⟨s', -, rfl⟩ := map_eq_ok_iff.mp rest
  exact ⟨⟨s, settled⟩, rfl⟩

theorem goes_of_await (awaited : r.await item = .ok r') : Goes r (some item) r' := by
  obtain ⟨s, settled, rfl⟩ := map_eq_ok_iff.mp awaited
  exact ⟨⟨s, settled⟩, rfl⟩

/-! ### Long spellings -/

/-- An option is found by its spelling. -/
theorem long?_long (known : item ∈ scope.items) :
    scope.long? item.long = some item := by
  revert known
  cases scope <;> cases item <;> decide

theorem long?_eq_some {name : String} (found : scope.long? name = some item) :
    item ∈ scope.items ∧ item.long = name :=
  ⟨List.mem_of_find?_eq_some found, by simpa using List.find?_some found⟩

theorem exists_encode_long (known : item ∈ scope.items) :
    ∃ b name, Utf8.encode item.long = b :: name := by
  cases item with
  | file => exact absurd known (by cases scope <;> decide)
  | _ => exact ⟨_, _, rfl⟩

/-- No spelling has an equals sign in it. -/
theorem equals_notMem_long (item : Item) :
    ∀ b ∈ Utf8.encode item.long, (b != equals) = true := by
  refine List.all_eq_true.mp ?_
  cases item <;> rfl

/-- An option that stands alone in its word is set, or waits for its value. -/
theorem stepLong_alone (known : item ∈ scope.items) (r : Reader) :
    stepLong scope r (Utf8.encode item.long) =
      .ofResult (if item.takesValue then r.await item else r.raise item) := by
  have name := List.takeWhile_eq_self_iff.mpr (equals_notMem_long item)
  have rest := List.dropWhile_eq_nil_iff.mpr (equals_notMem_long item)
  simp only [stepLong, name, rest, Utf8.decode?_encode, long?_long known]

/-- An option with its value in one word is given this value. -/
theorem stepLong_value (known : item ∈ scope.items) (valued : item.takesValue = true)
    (r : Reader) (value : Bytes) :
    stepLong scope r (Utf8.encode item.long ++ equals :: value) =
      .ofResult (r.give item value) := by
  have name : (Utf8.encode item.long ++ equals :: value).takeWhile (· != equals) =
      Utf8.encode item.long := by
    rw [List.takeWhile_append_of_pos (equals_notMem_long item)]
    simp
  have rest : (Utf8.encode item.long ++ equals :: value).dropWhile (· != equals) =
      equals :: value := by
    rw [List.dropWhile_append_of_pos (equals_notMem_long item)]
    simp
  simp only [stepLong, name, rest, Utf8.decode?_encode, long?_long known, valued]
  rfl

theorem stepByLooks_long (b : UInt8) (bs : Bytes) :
    stepByLooks scope r (hyphen :: hyphen :: b :: bs) =
      (stepLong scope r (b :: bs)).orPlain r (hyphen :: hyphen :: b :: bs) := rfl

/-- What is read after two hyphens is what the word is, for a name comes after them. -/
theorem stepByLooks_name (known : item ∈ scope.items) (tail : Bytes)
    {x : Except Stop Reader}
    (stepped : stepLong scope r (Utf8.encode item.long ++ tail) = .ofResult x) :
    stepByLooks scope r (hyphen :: hyphen :: (Utf8.encode item.long ++ tail)) =
      .ofResult x := by
  obtain ⟨b, name, long⟩ := exists_encode_long known
  rw [long, List.cons_append] at stepped ⊢
  rw [stepByLooks_long, stepped]
  cases x <;> rfl

theorem stepByLooks_alone (known : item ∈ scope.items) (r : Reader) :
    stepByLooks scope r (hyphen :: hyphen :: Utf8.encode item.long) =
      .ofResult (if item.takesValue then r.await item else r.raise item) := by
  have looked := stepByLooks_name (r := r) known [] (by
    rw [List.append_nil, stepLong_alone known])
  rwa [List.append_nil] at looked

theorem stepByLooks_value (known : item ∈ scope.items) (valued : item.takesValue = true)
    (r : Reader) (value : Bytes) :
    stepByLooks scope r (hyphen :: hyphen :: (Utf8.encode item.long ++ equals :: value)) =
      .ofResult (r.give item value) :=
  stepByLooks_name known _ (stepLong_value known valued r value)

/-! ### Letters -/

theorem stepByLooks_short {b : UInt8} (second : b ≠ hyphen) (bs : Bytes) :
    stepByLooks scope r (hyphen :: b :: bs) =
      (stepShort scope r (b :: bs)).orPlain r (hyphen :: b :: bs) := by
  rw [stepByLooks, if_pos rfl, if_neg second]

/-- The letter of an option is no hyphen. -/
theorem ne_hyphen_of_short? {c : Char} (found : scope.short? c = some item) : c ≠ '-' := by
  rintro rfl
  revert found
  cases scope <;> cases item <;> decide

/-- Letters of which the first is no hyphen do not start with the octet of one. -/
theorem encodeChars_eq_cons {c : Char} (other : c ≠ '-') (cs : List Char) :
    ∃ b bs, Utf8.encodeChars (c :: cs) = b :: bs ∧ b ≠ hyphen := by
  have read := Utf8.pieces_encodeChars (c :: cs)
  cases written : Utf8.encodeChars (c :: cs) with
  | nil =>
      rw [written] at read
      cases read
  | cons b bs =>
      refine ⟨b, bs, rfl, ?_⟩
      rintro rfl
      rw [written] at read
      exact other (Utf8.Piece.scalar.inj (List.cons.inj read).1).symm

/-- Letters of options do not start with a hyphen. -/
theorem Cluster.encodeChars_eq {cs : List Char} (cluster : Cluster scope cs waiting) :
    ∃ b bs, Utf8.encodeChars cs = b :: bs ∧ b ≠ hyphen := by
  cases cluster with
  | flag found | cons found | asking found | valued found =>
      exact encodeChars_eq_cons (ne_hyphen_of_short? found) _

/-- Letters that are read on are those of options. -/
theorem exists_cluster {cs : List Char} (letters : cs ≠ [])
    (read : readCluster scope r cs = .ok r') : ∃ waiting, Cluster scope cs waiting := by
  induction cs generalizing r with
  | nil => exact absurd rfl letters
  | cons c cs ih =>
      rw [readCluster.eq_def] at read
      dsimp only at read
      split at read
      · cases read
      next item found =>
      cases valued : item.takesValue with
      | true =>
          cases cs with
          | nil => exact ⟨_, .asking found valued⟩
          | cons => exact ⟨_, .valued found valued⟩
      | false =>
          rw [valued, if_neg Bool.false_ne_true] at read
          obtain ⟨raised, -, rest⟩ := bind_eq_ok_iff.mp read
          cases cs with
          | nil => exact ⟨_, .flag found valued⟩
          | cons =>
              obtain ⟨waiting, cluster⟩ := ih nofun rest
              exact ⟨waiting, .cons found valued cluster⟩

/-- **Letters lead to a reader that waits for what they leave open**, if they are read on. -/
theorem goes_of_cluster {cs : List Char} (cluster : Cluster scope cs waiting)
    (read : readCluster scope r cs = .ok r') : Goes r waiting r' := by
  induction cluster generalizing r with
  | flag found flag =>
      simp only [readCluster, found, flag] at read
      obtain ⟨raised, raise, rest⟩ := bind_eq_ok_iff.mp read
      cases rest
      exact goes_of_raise raise
  | cons found flag _ ih =>
      simp only [readCluster, found, flag] at read
      obtain ⟨raised, raise, rest⟩ := bind_eq_ok_iff.mp read
      exact ⟨(goes_of_raise raise).settled, (ih rest).pending⟩
  | asking found valued =>
      simp only [readCluster, found, valued, if_true] at read
      exact goes_of_await read
  | valued found valued =>
      rw [readCluster.eq_def] at read
      simp only [found, valued, if_true] at read
      split at read
      · next empty => cases empty
      · exact goes_of_give read
      · exact goes_of_give read

/-- What has a value where no command may start. -/
theorem eq_config_or_format (alone : scope.takesCommand = false)
    (known : item ∈ scope.items) (valued : item.takesValue = true) :
    item = .config ∨ item = .format := by
  revert alone known valued
  cases scope <;> cases item <;> decide

/-- A value that is no text is refused where no command may start. -/
theorem give_ne_ok (alone : scope.takesCommand = false) (known : item ∈ scope.items)
    (valued : item.takesValue = true) {value : Bytes}
    (malformed : Utf8.decodeChars? value = none) : r.give item value ≠ .ok r' := by
  intro given
  obtain ⟨s, -, rest⟩ := bind_eq_ok_iff.mp given
  obtain ⟨s', given, -⟩ := map_eq_ok_iff.mp rest
  unfold Settings.give at given
  split at given
  · cases given
  have read : Utf8.decode? value = none := by
    rw [Utf8.decode?, malformed]
    rfl
  rcases eq_config_or_format alone known valued with rfl | rfl
  · simp only [Settings.assign, textValue, read] at given
    cases given
  · simp only [Settings.assign, formatValue, read] at given
    cases given

/-- **Letters before octets that are no text are refused** where no command may start. -/
theorem readBrokenCluster_ne_ok (alone : scope.takesCommand = false) {word : Bytes}
    (malformed : Utf8.decodeChars? word = none) :
    readBrokenCluster scope r (Utf8.pieces word) word ≠ .ok r' := by
  generalize whole : Utf8.pieces word = ps
  induction ps generalizing word r with
  | nil => nofun
  | cons p ps ih =>
      cases p with
      | malformed => nofun
      | scalar c =>
          obtain ⟨rest, rfl, rfl⟩ := Utf8.exists_of_pieces whole
          rw [Utf8.decodeChars?_of_pieces whole, Option.map_eq_none_iff] at malformed
          intro read
          simp only [readBrokenCluster, List.drop_left] at read
          split at read
          · cases read
          next item found =>
          cases valued : item.takesValue with
          | true =>
              rw [valued, if_pos rfl] at read
              refine give_ne_ok alone (List.mem_of_find?_eq_some found) valued ?_ read
              split
              · split
                · next equal =>
                    subst equal
                    -- the sign before the value is read as itself
                    rw [Utf8.decodeChars?_of_pieces (c := '=') rfl,
                      Option.map_eq_none_iff] at malformed
                    exact malformed
                · exact malformed
              · cases malformed
          | false =>
              rw [valued, if_neg Bool.false_ne_true] at read
              obtain ⟨raised, -, read⟩ := bind_eq_ok_iff.mp read
              exact ih malformed rfl read

/-! ### Words that are read as what they look like -/

theorem stepByLooks_unmarked {b : UInt8} (first : b ≠ hyphen) (bs : Bytes) :
    stepByLooks scope r (b :: bs) = stepPlain r (b :: bs) := by
  cases bs with
  | nil => rfl
  | cons => rw [stepByLooks, if_neg first]

/-- **A plain word is read as one.** -/
theorem stepByLooks_of_isPlain (plain : scope.IsPlain word) (r : Reader) :
    stepByLooks scope r word = stepPlain r word := by
  cases plain with
  | empty | hyphen => rfl
  | unmarked first => exact stepByLooks_unmarked first _
  | @long b bs name takes read unknown =>
      have taken : stepLong scope r (b :: bs) = .operand := by
        simp only [stepLong, read, unknown, takes]
        rfl
      rw [stepByLooks_long, taken]
      rfl
  | @short b bs takes second other =>
      have taken : stepShort scope r (b :: bs) = .operand := by
        unfold stepShort
        split
        · rw [if_pos takes]
        · next cs read =>
            rw [if_pos]
            simpa [takes] using other cs read
      rw [stepByLooks_short second, taken]
      rfl

/-- **An option is read as one**: if the reader goes on, then it waits for what the word
leaves open. -/
theorem stepByLooks_of_isOption (option : scope.IsOption word waiting) (r : Reader) :
    ∃ x, stepByLooks scope r word = .ofResult x ∧ ∀ r', x = .ok r' → Goes r waiting r' := by
  cases option with
  | flag known flag =>
      refine ⟨_, stepByLooks_alone known r, fun _ => ?_⟩
      rw [flag, if_neg Bool.false_ne_true]
      exact goes_of_raise
  | asking known valued =>
      refine ⟨_, stepByLooks_alone known r, fun _ => ?_⟩
      rw [if_pos valued]
      exact goes_of_await
  | valued value known valued =>
      exact ⟨_, stepByLooks_value known valued r value, fun _ => goes_of_give⟩
  | @letters cs _ cluster all =>
      obtain ⟨b, bs, written, second⟩ := cluster.encodeChars_eq
      have read : Utf8.decodeChars? (b :: bs) = some cs := by
        rw [← written, Utf8.decodeChars?, Utf8.pieces_encodeChars, Utf8.mapM_scalar?]
      have stepped : stepShort scope r (b :: bs) = .ofResult (readCluster scope r cs) := by
        simp only [stepShort, read]
        rw [if_neg]
        simpa [← Option.isSome_iff_ne_none] using all
      refine ⟨readCluster scope r cs, ?_, fun _ => goes_of_cluster cluster⟩
      rw [written, stepByLooks_short second, stepped]
      cases readCluster scope r cs <;> rfl

/-! ### Words with hyphens -/

/-- What a word with hyphens may be: no option, or one with which the reader goes on, or
else it is refused. -/
inductive Found (scope : Scope) (r : Reader) (word : Bytes) : Step → Prop
  | plain : scope.IsPlain word → Found scope r word .operand
  | option {waiting : Option Item} {r' : Reader} : scope.IsOption word waiting →
      Goes r waiting r' → Found scope r word (.next r')
  | refused (reason : Stop) : Found scope r word (.stop reason)

theorem found_ofResult {x : Except Stop Reader} (option : scope.IsOption word waiting)
    (goes : ∀ r', x = .ok r' → Goes r waiting r') : Found scope r word (.ofResult x) := by
  cases x with
  | ok r' => exact .option option (goes r' rfl)
  | error reason => exact .refused reason

/-- What a word with two hyphens comes to. -/
theorem stepLong_found (scope : Scope) (r : Reader) (b : UInt8) (bs : Bytes) :
    Found scope r (hyphen :: hyphen :: b :: bs) (stepLong scope r (b :: bs)) := by
  cases read : Utf8.decode? ((b :: bs).takeWhile (· != equals)) with
  | none =>
      simp only [stepLong, read]
      exact .refused _
  | some name =>
  cases found : scope.long? name with
  | none =>
      simp only [stepLong, read, found]
      cases takes : scope.takesCommand with
      | true => exact .plain (.long takes read found)
      | false => exact .refused _
  | some item =>
  obtain ⟨known, rfl⟩ := long?_eq_some found
  have whole := List.takeWhile_append_dropWhile (p := (· != equals)) (l := b :: bs)
  rw [← Utf8.encode_of_decode? read] at whole
  cases attached : (b :: bs).dropWhile (· != equals) with
  | nil =>
      rw [attached, List.append_nil] at whole
      rw [← whole, stepLong_alone known]
      cases valued : item.takesValue with
      | true => exact found_ofResult (.asking known valued) fun _ => goes_of_await
      | false => exact found_ofResult (.flag known valued) fun _ => goes_of_raise
  | cons mark value =>
      cases valued : item.takesValue with
      | true =>
          have sign : mark = equals := by
            have head := List.head?_dropWhile_not (· != equals) (b :: bs)
            simpa [attached] using head
          subst sign
          rw [attached] at whole
          rw [← whole, stepLong_value known valued]
          exact found_ofResult (.valued value known valued) fun _ => goes_of_give
      | false =>
          simp only [stepLong, read, found, attached, valued]
          exact .refused _

/-- What a word with one hyphen comes to. -/
theorem stepShort_found (scope : Scope) (r : Reader) {b : UInt8} (second : b ≠ hyphen)
    (bs : Bytes) :
    Found scope r (hyphen :: b :: bs) (stepShort scope r (b :: bs)) := by
  unfold stepShort
  split
  · next malformed =>
      cases takes : scope.takesCommand with
      | true => exact .plain (.short takes second fun cs read => by simp [malformed] at read)
      | false =>
          cases read : readBrokenCluster scope r (Utf8.pieces (b :: bs)) (b :: bs) with
          | ok => exact absurd read (readBrokenCluster_ne_ok takes malformed)
          | error reason => exact .refused reason
  · next cs read =>
      have written := Utf8.encodeChars_of_decodeChars? read
      split
      · next other =>
          simp only [Bool.and_eq_true, List.any_eq_true, Option.isNone_iff_eq_none] at other
          refine .plain (.short other.1 second fun cs' read' => ?_)
          cases read.symm.trans read'
          exact other.2
      · next all =>
          cases went : readCluster scope r cs with
          | error reason => exact .refused reason
          | ok r' =>
              have letters : cs ≠ [] := by
                rintro rfl
                cases written
              obtain ⟨waiting, cluster⟩ := exists_cluster letters went
              rw [← written]
              refine .option (.letters cluster ?_) (goes_of_cluster cluster went)
              simpa [← Option.isSome_iff_ne_none] using all

end CommandLine

end ExitContract
