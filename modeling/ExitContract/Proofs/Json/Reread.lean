import ExitContract.Json.Printer
import ExitContract.Json.Reader
import ExitContract.Program.Printing
import ExitContract.Proofs.Keyed
import Mathlib.Data.List.DropRight

/-!
# Printed values are read back

A value that is printed with one item to a line is a text that the reader takes as a
whole, and what comes out is the value that was printed, as a reader keeps it.

**What a reader keeps.** The fields of an object that was read are in order of their
names, and of two fields of one name the later one counts. A whole number beyond 64 bits
comes back as a floating-point one. Nothing else changes (`Json.reread`). Values that hold
a floating-point number from the start are left out here (`Json.Exact`).

**What may follow.** Only a number does not say by itself where it ends. So a value is
read as it was printed before whatever cannot go on with a number (`Json.Apart`): a comma,
a new line, or the end of the text.

## Main definitions

* `Json.reread` — a value as a reader keeps it
* `Json.Exact` — no floating-point number stands in a value
* `Json.Apart` — what follows cannot go on with a number

## Main statements

* `Json.readString_quoted` — strings are read back, whatever characters they hold
* `Json.readNumber_digits` — whole numbers are read back
* `Json.reads_pretty` — values are read back, whatever stands after them
* `Json.parse?_printed` — documents are read back
-/

namespace ExitContract

namespace Json

/-! ### Values as a reader keeps them -/

mutual

/-- A value as a reader keeps it. -/
def reread : Json → Json
  | .natural n => whole false n
  | .negative n => whole true (n + 1)
  | .list items => .list (rereadItems items)
  | .object fields => ofFields (rereadFields fields)
  | j => j

/-- Items as a reader keeps them. -/
def rereadItems : List Json → List Json
  | [] => []
  | j :: js => reread j :: rereadItems js

/-- Fields as a reader finds them. -/
def rereadFields : List (String × Json) → List (String × Json)
  | [] => []
  | (name, j) :: fields => (name, reread j) :: rereadFields fields

end

mutual

/-- No floating-point number stands in a value. -/
def Exact : Json → Prop
  | .real _ => False
  | .list items => ExactItems items
  | .object fields => ExactFields fields
  | _ => True

/-- No floating-point number stands in the items. -/
def ExactItems : List Json → Prop
  | [] => True
  | j :: js => Exact j ∧ ExactItems js

/-- No floating-point number stands in the fields. -/
def ExactFields : List (String × Json) → Prop
  | [] => True
  | (_, j) :: fields => Exact j ∧ ExactFields fields

end

theorem exactFields_iff {fields : List (String × Json)} :
    ExactFields fields ↔ ∀ field ∈ fields, field.2.Exact := by
  induction fields with
  | nil => simp [ExactFields]
  | cons field fields ih => rw [ExactFields, ih, List.forall_mem_cons]

theorem exact_int (i : Int) : (int i).Exact := by
  cases i <;> exact trivial

/-! ### Blanks -/

section Blanks

variable (cs : List Char)

@[simp] theorem skipBlanks_skipBlanks : skipBlanks (skipBlanks cs) = skipBlanks cs :=
  List.dropWhile_idempotent _ cs

@[simp] theorem skipBlanks_newline (level : Nat) :
    skipBlanks (newline level ++ cs) = skipBlanks cs := by
  rw [skipBlanks, List.dropWhile_append_of_pos]
  · rfl
  · intro c mem
    rcases List.mem_cons.mp mem with rfl | mem
    · rfl
    · rw [List.eq_of_mem_replicate mem]
      rfl

@[simp] theorem skipBlanks_colon : skipBlanks (':' :: cs) = ':' :: cs := rfl

@[simp] theorem skipBlanks_quoted (s : String) (rest : List Char) :
    skipBlanks (quoted s ++ rest) = '"' :: (s.toList.flatMap escapeChar ++ '"' :: rest) := by
  rw [quoted, List.cons_append, List.append_assoc, List.singleton_append]
  rfl

end Blanks

/-! ### Strings -/

theorem hexDigit?_hexChar : ∀ n < 16, hexDigit? (hexChar n) = some n := by decide

/-- A control character is read from its number. -/
theorem unicodeEscape?_control {c : Char} (control : c.toNat < 0x20) (cs : List Char) :
    unicodeEscape? ('0' :: '0' :: hexChar (c.toNat / 16) :: hexChar (c.toNat % 16) :: cs) =
      some (c, cs) := by
  have zero : hexDigit? '0' = some 0 := by decide
  have high := hexDigit?_hexChar (c.toNat / 16) (by omega)
  have low := hexDigit?_hexChar (c.toNat % 16) (by omega)
  have number : ((0 * 16 + 0) * 16 + c.toNat / 16) * 16 + c.toNat % 16 = c.toNat := by omega
  have digits : hex4? ('0' :: '0' :: hexChar (c.toNat / 16) :: hexChar (c.toNat % 16) :: cs) =
      some (c.toNat, cs) := by
    simp only [hex4?, zero, high, low, number, Option.bind_eq_bind, Option.bind_some,
      Option.pure_def]
  have noHigh : ¬ (0xD800 ≤ c.toNat ∧ c.toNat < 0xDC00) := by omega
  have noLow : ¬ (0xDC00 ≤ c.toNat ∧ c.toNat < 0xE000) := by omega
  simp only [unicodeEscape?, digits, Option.bind_eq_bind, Option.bind_some, if_neg noHigh,
    if_neg noLow, Char.ofNat_toNat]

/-- A character is read as it was written. -/
theorem readString_escapeChar (fuel : Nat) (acc : List Char) (c : Char) (cs : List Char) :
    readString (fuel + 1) acc (escapeChar c ++ cs) = readString fuel (c :: acc) cs := by
  rw [escapeChar]
  split_ifs with quote backslash lineFeed carriage tab backspace formFeed control
  -- the characters with a letter of their own
  iterate 7
    subst c
    rfl
  · simp only [List.cons_append, List.nil_append, readString, unicodeEscape?_control control]
  · rw [List.singleton_append, readString.eq_def]
    split <;> simp_all

/-- Characters are read as they were written, up to the closing quote. -/
theorem readString_escaped (s acc rest : List Char) {fuel : Nat} (enough : s.length < fuel) :
    readString fuel acc (s.flatMap escapeChar ++ '"' :: rest) =
      some (String.ofList (acc.reverse ++ s), rest) := by
  induction s generalizing acc fuel with
  | nil =>
      obtain ⟨fuel, rfl⟩ := Nat.exists_eq_succ_of_ne_zero (Nat.ne_zero_of_lt enough)
      rw [List.flatMap_nil, List.nil_append, readString, List.append_nil]
  | cons c s ih =>
      obtain ⟨fuel, rfl⟩ := Nat.exists_eq_succ_of_ne_zero (Nat.ne_zero_of_lt enough)
      rw [List.flatMap_cons, List.append_assoc, readString_escapeChar,
        ih (c :: acc) (Nat.lt_of_succ_lt_succ enough), List.reverse_cons, List.append_assoc,
        List.singleton_append]

theorem escapeChar_ne_nil (c : Char) : escapeChar c ≠ [] := by
  rw [escapeChar]
  split_ifs <;> exact List.cons_ne_nil _ _

/-- Escaping makes no string shorter. -/
theorem length_le_escaped (s : List Char) : s.length ≤ (s.flatMap escapeChar).length := by
  induction s with
  | nil => exact Nat.zero_le _
  | cons c s ih =>
      have some := List.length_pos_iff.mpr (escapeChar_ne_nil c)
      rw [List.flatMap_cons, List.length_append, List.length_cons]
      omega

/-- **A string is read as it was written**, whatever stands after its closing quote. -/
theorem readString_quoted (s : String) (rest : List Char) :
    let cs := s.toList.flatMap escapeChar ++ '"' :: rest
    readString (cs.length + 1) [] cs = some (s, rest) := by
  intro cs
  have longer := length_le_escaped s.toList
  have enough : s.toList.length < cs.length + 1 := by
    rw [List.length_append]
    omega
  rw [readString_escaped s.toList [] rest enough, List.reverse_nil, List.nil_append,
    String.ofList_toList]

/-! ### Numbers -/

/-- What follows cannot go on with a number. -/
def Apart (rest : List Char) : Prop :=
  ∀ c ∈ rest.head?, c.isDigit = false ∧ c ≠ '.' ∧ c ≠ 'e' ∧ c ≠ 'E'

theorem apart_cons {c : Char} (cs : List Char)
    (other : c.isDigit = false ∧ c ≠ '.' ∧ c ≠ 'e' ∧ c ≠ 'E') : Apart (c :: cs) := by
  rintro d ⟨⟩
  exact other

theorem spanDigits_append {ds rest : List Char} (digits : ∀ c ∈ ds, c.isDigit = true)
    (apart : Apart rest) : Binary64.spanDigits (ds ++ rest) = (ds, rest) := by
  rw [Binary64.spanDigits, List.takeWhile_append_of_pos digits,
    List.dropWhile_append_of_pos digits]
  cases rest with
  | nil => simp
  | cons c rest => simp [(apart c rfl).1]

/-- No number but zero starts with a zero. -/
theorem eq_zero_of_head_toDigits {n : Nat} (zero : (Nat.toDigits 10 n).head? = some '0') :
    n = 0 := by
  induction n using Nat.strongRecOn with
  | ind n ih =>
      rcases Nat.lt_or_ge n 10 with small | large
      · rw [Nat.toDigits_of_lt_base small] at zero
        have single : ∀ n < 10, Nat.digitChar n = '0' → n = 0 := by decide
        exact single n small (Option.some.inj zero)
      · -- the first digit is that of a tenth of the number, which is not zero
        rw [Nat.toDigits_of_base_le (by decide) large,
          List.head?_append_of_ne_nil _ Nat.toDigits_ne_nil] at zero
        have tenth := ih (n / 10) (by omega) zero
        omega

theorem digitsValue_toDigits (n : Nat) : Binary64.digitsValue (Nat.toDigits 10 n) = n := by
  have read := Nat.ofDigitChars_ten_toDigits (n := n)
  rw [Nat.ofDigitChars_eq_foldl] at read
  rw [Binary64.digitsValue]
  simp only [Nat.mul_comm _ 10]
  exact read

/-- **A whole number is read as it was written.** -/
theorem readNumber_digits (negative : Bool) (n : Nat) {rest : List Char} (apart : Apart rest) :
    readNumber negative (Nat.toDigits 10 n ++ rest) = some (whole negative n, rest) := by
  have digits : ∀ c ∈ Nat.toDigits 10 n, c.isDigit = true := fun c mem =>
    Nat.isDigit_of_mem_toDigits (by decide) (by decide) mem
  have proper : ¬ ((Nat.toDigits 10 n).isEmpty = true ∨
      (Nat.toDigits 10 n).head? = some '0' ∧ 1 < (Nat.toDigits 10 n).length) := by
    rintro (empty | ⟨zero, long⟩)
    · exact Nat.toDigits_ne_nil (List.isEmpty_iff.mp empty)
    · rw [eq_zero_of_head_toDigits zero] at long
      exact absurd long (by decide)
  unfold readNumber
  simp only [spanDigits_append digits apart, if_neg proper, digitsValue_toDigits]
  cases rest with
  | nil => rfl
  | cons c rest =>
      obtain ⟨-, point, small, large⟩ := apart c rfl
      have noExponent : ¬ (c = 'e' ∨ c = 'E') := not_or.mpr ⟨small, large⟩
      simp [point, noExponent]

/-! ### The arms of the reader -/

section Arms

variable {fuel : Nat} {cs cs' rest : List Char} {j : Json} {js : List Json}
variable {fields : List (String × Json)}

theorem readValue_skipBlanks (fuel : Nat) (cs : List Char) :
    readValue fuel (skipBlanks cs) = readValue fuel cs := by
  cases fuel with
  | zero => rfl
  | succ fuel => simp only [readValue, skipBlanks_skipBlanks]

theorem readItems_skipBlanks (fuel : Nat) (cs : List Char) :
    readItems fuel (skipBlanks cs) = readItems fuel cs := by
  cases fuel with
  | zero => rfl
  | succ fuel => simp only [readItems, readValue_skipBlanks]

theorem readFields_skipBlanks (fuel : Nat) (cs : List Char) :
    readFields fuel (skipBlanks cs) = readFields fuel cs := by
  cases fuel with
  | zero => rfl
  | succ fuel => simp only [readFields, skipBlanks_skipBlanks]

theorem readValue_newline (level : Nat) :
    readValue fuel (newline level ++ cs) = readValue fuel cs := by
  rw [← readValue_skipBlanks, skipBlanks_newline, readValue_skipBlanks]

theorem readFields_newline (level : Nat) :
    readFields fuel (newline level ++ cs) = readFields fuel cs := by
  rw [← readFields_skipBlanks, skipBlanks_newline, readFields_skipBlanks]

theorem readWord_append (word : String) (value : Json) (rest : List Char) :
    readWord word value (word.toList ++ rest) = some (value, rest) := by
  have stands : word.toList.isPrefixOf (word.toList ++ rest) = true :=
    List.isPrefixOf_iff_prefix.mpr (List.prefix_append _ _)
  rw [readWord, if_pos stands, ← String.length_toList, List.drop_left]

@[simp] theorem readValue_null : readValue (fuel + 1) (atom .null ++ rest) = some (.null, rest) :=
  readWord_append "ull" .null rest

@[simp] theorem readValue_boolean (b : Bool) :
    readValue (fuel + 1) (atom (.boolean b) ++ rest) = some (.boolean b, rest) := by
  cases b
  · exact readWord_append "alse" (.boolean false) rest
  · exact readWord_append "rue" (.boolean true) rest

theorem readValue_text (s : String) :
    readValue (fuel + 1) (quoted s ++ rest) = some (.text s, rest) := by
  simp only [readValue, skipBlanks_quoted, readString_quoted, Option.map_some]

/-- A value that starts with a digit is a number. -/
theorem readValue_digit {c : Char} (digit : c.isDigit = true) :
    readValue (fuel + 1) (c :: cs) = readNumber false (c :: cs) := by
  have full : skipBlanks (c :: cs) = c :: cs := by
    refine List.dropWhile_cons_of_neg ?_
    simp only [Bool.or_eq_true, beq_iff_eq]
    rintro (((rfl | rfl) | rfl) | rfl) <;> exact absurd digit (by decide)
  rw [readValue, full]
  split
  · next none => cases none
  -- the marks that start another value are no digits
  iterate 7
    next same =>
      cases same
      exact absurd digit (by decide)
  · rfl

theorem readValue_natural (n : Nat) (apart : Apart rest) :
    readValue (fuel + 1) (atom (.natural n) ++ rest) = some (whole false n, rest) := by
  show readValue (fuel + 1) (n.repr.toList ++ rest) = _
  rw [Nat.toList_repr, ← readNumber_digits false n apart]
  cases digits : Nat.toDigits 10 n with
  | nil => exact absurd digits Nat.toDigits_ne_nil
  | cons c cs =>
      have mem : c ∈ Nat.toDigits 10 n := by
        rw [digits]
        exact List.mem_cons_self
      exact readValue_digit (Nat.isDigit_of_mem_toDigits (by decide) (by decide) mem)

theorem readValue_negative (n : Nat) (apart : Apart rest) :
    readValue (fuel + 1) (atom (.negative n) ++ rest) = some (whole true (n + 1), rest) := by
  show readNumber true ((n + 1).repr.toList ++ rest) = _
  rw [Nat.toList_repr, readNumber_digits true (n + 1) apart]

/-- A list is not closed where an item is awaited. -/
theorem readItems_bracket (fuel : Nat) (cs : List Char) :
    readItems fuel (']' :: cs) = none := by
  rcases fuel with _ | _ | fuel <;> rfl

/-- An object is not closed where a field is awaited. -/
theorem readFields_brace (fuel : Nat) (cs : List Char) :
    readFields fuel ('}' :: cs) = none := by
  cases fuel <;> rfl

/-- A list is read as its items are, where there are some. -/
theorem readValue_list (read : readItems fuel cs = some (js, rest)) :
    readValue (fuel + 1) ('[' :: cs) = some (.list js, rest) := by
  have bracket : skipBlanks ('[' :: cs) = '[' :: cs := rfl
  rw [← readItems_skipBlanks] at read
  simp only [readValue, bracket]
  split
  · next close =>
      rw [close, readItems_bracket] at read
      cases read
  · rw [read]
    rfl

/-- An object is read as its fields are, where there are some. -/
theorem readValue_object (read : readFields fuel cs = some (fields, rest)) :
    readValue (fuel + 1) ('{' :: cs) = some (ofFields fields, rest) := by
  have brace : skipBlanks ('{' :: cs) = '{' :: cs := rfl
  rw [← readFields_skipBlanks] at read
  simp only [readValue, brace]
  split
  · next close =>
      rw [close, readFields_brace] at read
      cases read
  · rw [read]
    rfl

theorem readItems_last (read : readValue fuel cs = some (j, cs'))
    (close : skipBlanks cs' = ']' :: rest) : readItems (fuel + 1) cs = some ([j], rest) := by
  simp only [readItems, read, close]

theorem readItems_more (read : readValue fuel cs = some (j, ',' :: cs'))
    (more : readItems fuel cs' = some (js, rest)) :
    readItems (fuel + 1) cs = some (j :: js, rest) := by
  have comma : skipBlanks (',' :: cs') = ',' :: cs' := rfl
  simp only [readItems, read, comma, more, Option.map_some]

theorem readFields_last (name : String) (read : readValue fuel cs = some (j, cs'))
    (close : skipBlanks cs' = '}' :: rest) :
    readFields (fuel + 1) (quoted name ++ ':' :: cs) = some ([(name, j)], rest) := by
  simp only [readFields, skipBlanks_quoted, readString_quoted, skipBlanks_colon, read, close]

theorem readFields_more (name : String) (read : readValue fuel cs = some (j, ',' :: cs'))
    (more : readFields fuel cs' = some (fields, rest)) :
    readFields (fuel + 1) (quoted name ++ ':' :: cs) = some ((name, j) :: fields, rest) := by
  have comma : skipBlanks (',' :: cs') = ',' :: cs' := rfl
  simp only [readFields, skipBlanks_quoted, readString_quoted, skipBlanks_colon, read, comma,
    more, Option.map_some]

end Arms

/-! ### Whole values -/

theorem apart_comma (cs : List Char) : Apart (',' :: cs) := apart_cons cs (by decide)

theorem apart_newline (level : Nat) (cs : List Char) : Apart (newline level ++ cs) :=
  apart_cons _ (by decide)

@[simp]
theorem length_newline (level : Nat) : (newline level).length = 2 * level + 1 := by
  rw [newline, List.length_cons, List.length_replicate]

/-- Whatever follows, if it is no part of it, a text is read as a value. -/
def Reads (fuel : Nat) (cs : List Char) (j : Json) : Prop :=
  ∀ rest, Apart rest → readValue fuel (cs ++ rest) = some (j, rest)

theorem Reads.newline {fuel : Nat} {cs : List Char} {j : Json} (reads : Reads fuel cs j)
    (level : Nat) : Reads fuel (newline level ++ cs) j := by
  intro rest apart
  rw [List.append_assoc, readValue_newline, reads rest apart]

theorem Reads.space {fuel : Nat} {cs : List Char} {j : Json} (reads : Reads fuel cs j) :
    Reads fuel (' ' :: cs) j := by
  intro rest apart
  have same : skipBlanks (' ' :: cs ++ rest) = skipBlanks (cs ++ rest) := rfl
  rw [← readValue_skipBlanks, same, readValue_skipBlanks, reads rest apart]

-- The induction is on what is printed. The length of the text is fuel enough: whatever the
-- reader opens takes a character at least, and an item or a field stands on a line of its own.
mutual

/-- **A value is read as it was printed**, up to what a reader keeps of it. -/
theorem reads_pretty : ∀ (j : Json) (level : Nat) {fuel : Nat}, j.Exact →
    (prettyChars level j).length ≤ fuel → Reads (fuel + 1) (prettyChars level j) j.reread
  | .null, _, _, _, _ => fun _ _ => readValue_null
  | .boolean b, _, _, _, _ => fun _ _ => readValue_boolean b
  | .natural n, _, _, _, _ => fun _ apart => readValue_natural n apart
  | .negative n, _, _, _, _ => fun _ apart => readValue_negative n apart
  | .real _, _, _, exact, _ => exact.elim
  | .text s, _, _, _, _ => fun _ _ => readValue_text s
  | .list [], _, _, _, _ => fun _ _ => rfl
  | .object [], _, _, _, _ => fun _ _ => rfl
  | .list (j :: js), level, fuel, exact, enough => by
    intro rest _
    obtain ⟨exactItem, exactItems⟩ := exact
    simp only [prettyChars, List.length_cons, List.length_append, length_newline] at enough
    obtain ⟨fuel, rfl⟩ := Nat.exists_eq_add_of_le' (show 2 ≤ fuel by omega)
    have item : Reads (fuel + 1) (newline (level + 1) ++ prettyChars (level + 1) j) j.reread :=
      (reads_pretty j (level + 1) exactItem (by omega)).newline (level + 1)
    have items := readItems_pretty js (level + 1) level rest exactItems (by omega) item
    rw [prettyChars, List.cons_append, List.append_assoc _ _ rest]
    exact readValue_list items
  | .object ((name, j) :: fields), level, fuel, exact, enough => by
    intro rest _
    obtain ⟨exactField, exactFields⟩ := exact
    simp only [prettyChars, List.length_cons, List.length_append, length_newline] at enough
    obtain ⟨fuel, rfl⟩ := Nat.exists_eq_add_of_le' (show 2 ≤ fuel by omega)
    have value : Reads (fuel + 1) (' ' :: prettyChars (level + 1) j) j.reread :=
      (reads_pretty j (level + 1) exactField (by omega)).space
    have read := readFields_pretty fields (level + 1) level rest name exactFields (by omega) value
    rw [← readFields_newline (level + 1)] at read
    simp only [List.append_assoc, List.cons_append] at read
    simp only [prettyChars, List.cons_append, List.append_assoc, List.nil_append]
    exact readValue_object read

/-- Items are read as they were printed, after another one. -/
theorem readItems_pretty : ∀ (js : List Json) (level outer : Nat) (rest : List Char)
    {fuel : Nat} {cs : List Char} {j : Json}, ExactItems js →
    (prettyItems level js).length ≤ fuel → Reads fuel cs j →
    readItems (fuel + 1) (cs ++ prettyItems level js ++ newline outer ++ (']' :: rest)) =
      some (j :: rereadItems js, rest)
  | [], level, outer, rest, fuel, cs, j, _, _, first => by
    have read := first (newline outer ++ ']' :: rest) (apart_newline outer _)
    rw [prettyItems, List.append_nil, List.append_assoc]
    exact readItems_last read (skipBlanks_newline _ outer)
  | j' :: js, level, outer, rest, fuel, cs, j, exact, enough, first => by
    obtain ⟨exactItem, exactItems⟩ := exact
    simp only [prettyItems, List.length_cons, List.length_append, length_newline] at enough
    obtain ⟨fuel, rfl⟩ := Nat.exists_eq_add_of_le' (show 2 ≤ fuel by omega)
    have item : Reads (fuel + 1) (newline level ++ prettyChars level j') j'.reread :=
      (reads_pretty j' level exactItem (by omega)).newline level
    have items := readItems_pretty js level outer rest exactItems (by omega) item
    have read := first _ (apart_comma (newline level ++ prettyChars level j' ++
      prettyItems level js ++ newline outer ++ ']' :: rest))
    have more := readItems_more read items
    simp only [List.append_assoc] at more
    simp only [prettyItems, List.cons_append, List.append_assoc]
    exact more

/-- Fields are read as they were printed, after another one. -/
theorem readFields_pretty : ∀ (fields : List (String × Json)) (level outer : Nat)
    (rest : List Char) (name : String) {fuel : Nat} {cs : List Char} {j : Json},
    ExactFields fields → (prettyFields level fields).length ≤ fuel → Reads fuel cs j →
    readFields (fuel + 1) (quoted name ++
        ':' :: (cs ++ prettyFields level fields ++ newline outer ++ '}' :: rest)) =
      some ((name, j) :: rereadFields fields, rest)
  | [], level, outer, rest, name, fuel, cs, j, _, _, first => by
    have read := first (newline outer ++ '}' :: rest) (apart_newline outer _)
    rw [prettyFields, List.append_nil, List.append_assoc]
    exact readFields_last name read (skipBlanks_newline _ outer)
  | (other, j') :: fields, level, outer, rest, name, fuel, cs, j, exact, enough, first => by
    obtain ⟨exactField, exactFields⟩ := exact
    simp only [prettyFields, List.length_cons, List.length_append, length_newline] at enough
    obtain ⟨fuel, rfl⟩ := Nat.exists_eq_add_of_le' (show 2 ≤ fuel by omega)
    have value : Reads (fuel + 1) (' ' :: prettyChars level j') j'.reread :=
      (reads_pretty j' level exactField (by omega)).space
    have fields := readFields_pretty fields level outer rest other exactFields (by omega) value
    rw [← readFields_newline level] at fields
    have more := readFields_more name (first _ (apart_comma _)) fields
    simp only [List.append_assoc] at more
    simp only [prettyFields, List.cons_append, List.append_assoc]
    exact more

end

/-- **A document is read as it was printed.** -/
theorem parse?_printed {j : Json} (exact : j.Exact) : parse? j.printed = some j.reread := by
  have text : j.printed.toList = prettyChars 0 j ++ ['\n'] := by
    rw [printed, pretty, String.toList_append, String.toList_ofList]
    rfl
  have length : (prettyChars 0 j ++ ['\n']).length = (prettyChars 0 j).length + 1 :=
    List.length_append
  have read := reads_pretty j 0 exact (Nat.le_succ _) ['\n'] (apart_cons [] (by decide))
  unfold parse?
  simp only [text, length, read]
  rfl

/-! ### Fields of what was read -/

theorem rereadFields_eq_map (fields : List (String × Json)) :
    rereadFields fields = fields.map fun field => (field.1, field.2.reread) := by
  induction fields with
  | nil => rfl
  | cons field fields ih => rw [rereadFields, ih, List.map_cons]

/-- A field of an object that was read is the last one of its name. -/
theorem field?_reread (fields : List (String × Json)) (name : String) :
    (object fields).reread.field? name = (List.lookup name fields.reverse).map reread := by
  show List.lookup name (Keyed.ofList (rereadFields fields)) = _
  rw [Keyed.lookup_ofList, rereadFields_eq_map, ← List.map_reverse, Keyed.lookup_map]

/-- Whole numbers of 64 bits are kept as they are. -/
theorem reread_int {i : Int} (least : -0x8000000000000000 ≤ i)
    (greatest : i < 0x10000000000000000) : (int i).reread = int i := by
  cases i with
  | ofNat n => exact if_pos (Int.ofNat_lt.mp greatest)
  | negSucc n => exact if_pos (show n < 0x8000000000000000 by omega)

theorem reread_ofCode (code : Int32) : (ofCode code).reread = ofCode code := by
  have least := code.le_toInt
  have greatest := code.toInt_lt
  exact reread_int (by omega) (by omega)

end Json

end ExitContract
