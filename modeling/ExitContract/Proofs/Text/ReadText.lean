import ExitContract.Proofs.Text.WrittenText

/-!
# Octets that are read as a text are written as it

If nothing in a run of octets is malformed, then writing the text that was read gives
the same octets. Together with the way back this makes reading and writing inverse to
each other: no two runs of octets are read as one text.

A reader in the middle of a form remembers bits and how many octets are owed. What it
does not remember are the octets themselves, and the statement needs them: whichever
octets it takes next, the octets so far together with these are how the character is
written whose bits it will have put together (`Utf8.Begins`). For octets after the first
this is kept by definition, so there is only something to prove of those that open a
form, where the ranges of second octets rule out what no character is written as.

## Main definitions

* `Utf8.Begins`, `Utf8.State.Holds` — what a reader has before it

## Main statements

* `Utf8.opening_holds` — what an octet between characters comes to
* `Utf8.exists_of_pieces` — a character that was read first is written first
* `Utf8.encode_of_decode?` — well-formed octets are those of their text
-/

namespace ExitContract

namespace Utf8

/-- The octets `held` and any that the reader takes after them are those in which the
character of the bits is written. -/
def Begins (bits : Nat) : Nat → UInt8 → UInt8 → Bytes → Prop
  | 0, low, high, held => ∀ b : UInt8, low ≤ b → b ≤ high →
      String.utf8EncodeChar (Char.ofNat (bits * 64 + (b.toNat - 0x80))) = held ++ [b]
  | owed + 1, low, high, held => ∀ b : UInt8, low ≤ b → b ≤ high →
      Begins (bits * 64 + (b.toNat - 0x80)) owed 0x80 0xBF (held ++ [b])

/-- The octets of the form that a reader is in. -/
def State.Holds : State → Bytes → Prop
  | .start, held => held = []
  | .inside bits owed low high, held => Begins bits owed low high held

/-! ### How characters are written -/

theorem val_ofNat {v : Nat} (valid : v < 0xD800 ∨ 0xDFFF < v ∧ v < 0x110000) :
    (Char.ofNat v).val.toNat = v := by
  rw [Char.ofNat, dif_pos valid]
  rfl

/-- An octet is known by its number. -/
theorem ofNat_eq {n : Nat} {b : UInt8} (same : n = b.toNat) : UInt8.ofNat n = b := by
  rw [same, UInt8.ofNat_toNat]

/-- A form of one octet. -/
theorem encodeChar_one {b : UInt8} (small : b.toNat < 0x80) :
    String.utf8EncodeChar (Char.ofNat b.toNat) = [b] := by
  unfold String.utf8EncodeChar
  simp only [val_ofNat (v := b.toNat) (by omega)]
  rw [if_pos (by omega), UInt8.ofNat_toNat]

/-- A form of two octets. -/
theorem begins_two {b : UInt8} (least : 0xC2 ≤ b.toNat) (greatest : b.toNat ≤ 0xDF) :
    Begins (b.toNat - 0xC0) 0 0x80 0xBF [b] := by
  intro c lowC highC
  simp only [UInt8.le_iff_toNat_le, UInt8.reduceToNat] at lowC highC
  unfold String.utf8EncodeChar
  simp only [val_ofNat (v := (b.toNat - 0xC0) * 64 + (c.toNat - 0x80)) (by omega)]
  rw [if_neg (by omega), if_pos (by omega), ofNat_eq (b := b) (by omega),
    ofNat_eq (b := c) (by omega)]
  rfl

/-- A form of three octets, of which the second is in a range that leaves out overlong
forms and surrogates. -/
theorem begins_three {b : UInt8} (low high : UInt8) (least : 0xE0 ≤ b.toNat)
    (greatest : b.toNat ≤ 0xEF) (usual : 0x80 ≤ low.toNat ∧ high.toNat ≤ 0xBF)
    (narrow : ∀ n, low.toNat ≤ n → n ≤ high.toNat →
      0x20 ≤ (b.toNat - 0xE0) * 64 + (n - 0x80) ∧
        ((b.toNat - 0xE0) * 64 + (n - 0x80) < 0x360 ∨
          0x37F < (b.toNat - 0xE0) * 64 + (n - 0x80))) :
    Begins (b.toNat - 0xE0) 1 low high [b] := by
  intro c lowC highC d lowD highD
  simp only [UInt8.le_iff_toNat_le, UInt8.reduceToNat] at lowC highC lowD highD
  have narrow := narrow c.toNat lowC highC
  unfold String.utf8EncodeChar
  simp only [val_ofNat (v := ((b.toNat - 0xE0) * 64 + (c.toNat - 0x80)) * 64 +
    (d.toNat - 0x80)) (by omega)]
  rw [if_neg (by omega), if_neg (by omega), if_pos (by omega),
    ofNat_eq (b := b) (by omega), ofNat_eq (b := c) (by omega),
    ofNat_eq (b := d) (by omega)]
  rfl

/-- A form of four octets, of which the second is in a range that leaves out overlong
forms and what lies beyond the last character. -/
theorem begins_four {b : UInt8} (low high : UInt8) (least : 0xF0 ≤ b.toNat)
    (greatest : b.toNat ≤ 0xF4) (usual : 0x80 ≤ low.toNat ∧ high.toNat ≤ 0xBF)
    (narrow : ∀ n, low.toNat ≤ n → n ≤ high.toNat →
      0x10 ≤ (b.toNat - 0xF0) * 64 + (n - 0x80) ∧
        (b.toNat - 0xF0) * 64 + (n - 0x80) < 0x110) :
    Begins (b.toNat - 0xF0) 2 low high [b] := by
  intro c lowC highC d lowD highD e lowE highE
  simp only [UInt8.le_iff_toNat_le, UInt8.reduceToNat] at lowC highC lowD highD lowE highE
  have narrow := narrow c.toNat lowC highC
  unfold String.utf8EncodeChar
  simp only [val_ofNat (v := (((b.toNat - 0xF0) * 64 + (c.toNat - 0x80)) * 64 +
    (d.toNat - 0x80)) * 64 + (e.toNat - 0x80)) (by omega)]
  rw [if_neg (by omega), if_neg (by omega), if_neg (by omega),
    ofNat_eq (b := b) (by omega), ofNat_eq (b := c) (by omega),
    ofNat_eq (b := d) (by omega), ofNat_eq (b := e) (by omega)]
  rfl

/-! ### Reading -/

/-- What an octet between characters comes to: it is a character, or no character starts
with it, or it opens a form. -/
theorem opening_holds (b : UInt8) :
    (b.toNat < 0x80 ∧ opening b = ([.scalar (Char.ofNat b.toNat)], .start)) ∨
      opening b = ([.malformed], .start) ∨
      ∃ s : State, opening b = ([], s) ∧ s.Holds [b] := by
  unfold opening
  simp only [UInt8.lt_iff_toNat_lt, ← UInt8.toNat_inj, UInt8.reduceToNat]
  split
  · next small => exact .inl ⟨small, rfl⟩
  split
  · exact .inr (.inl rfl)
  split
  · exact .inr (.inr ⟨_, rfl, begins_two (by omega) (by omega)⟩)
  split
  · next value =>
      have form := begins_three (b := b) 0xA0 0xBF (by omega) (by omega) (by decide)
        (by simp only [UInt8.reduceToNat]; omega)
      rw [value] at form
      exact .inr (.inr ⟨_, rfl, form⟩)
  split
  · next value =>
      have form := begins_three (b := b) 0x80 0x9F (by omega) (by omega) (by decide)
        (by simp only [UInt8.reduceToNat]; omega)
      rw [value] at form
      exact .inr (.inr ⟨_, rfl, form⟩)
  split
  · exact .inr (.inr ⟨_, rfl, begins_three 0x80 0xBF (by omega) (by omega)
      (by decide) (by simp only [UInt8.reduceToNat]; omega)⟩)
  split
  · next value =>
      have form := begins_four (b := b) 0x90 0xBF (by omega) (by omega) (by decide)
        (by simp only [UInt8.reduceToNat]; omega)
      rw [value] at form
      exact .inr (.inr ⟨_, rfl, form⟩)
  split
  · exact .inr (.inr ⟨_, rfl, begins_four 0x80 0xBF (by omega) (by omega)
      (by decide) (by simp only [UInt8.reduceToNat]; omega)⟩)
  split
  · next value =>
      have form := begins_four (b := b) 0x80 0x8F (by omega) (by omega) (by decide)
        (by simp only [UInt8.reduceToNat]; omega)
      rw [value] at form
      exact .inr (.inr ⟨_, rfl, form⟩)
  · exact .inr (.inl rfl)

/-- **A character that was read first is written first**: in the octets of the open form
and those after it, the way it is written comes before the rest, which is read afresh. -/
theorem exists_encodeChars {s : State} {held bs : Bytes} {c : Char} {ps : List Piece}
    (holds : s.Holds held) (read : piecesFrom s bs = .scalar c :: ps) :
    ∃ rest, held ++ bs = encodeChars [c] ++ rest ∧ pieces rest = ps := by
  induction bs generalizing s held with
  | nil => cases s <;> cases read
  | cons b bs ih =>
      rw [piecesFrom_cons] at read
      cases s with
      | start =>
          cases holds
          rw [step] at read
          rcases opening_holds b with ⟨small, opened⟩ | opened | ⟨s, opened, form⟩ <;>
            rw [opened] at read
          · cases read
            refine ⟨bs, ?_, rfl⟩
            rw [encodeChars, List.flatMap_singleton, encodeChar_one small]
            rfl
          · cases read
          · exact ih form read
      | inside bits owed low high =>
          rw [step] at read
          split at read
          · next within =>
              cases owed with
              | zero =>
                  obtain ⟨same, after⟩ := List.cons.inj read
                  rw [← Piece.scalar.inj same]
                  refine ⟨bs, ?_, after⟩
                  rw [encodeChars, List.flatMap_singleton, holds b within.1 within.2,
                    List.append_assoc]
                  rfl
              | succ owed =>
                  have form := holds b within.1 within.2
                  obtain ⟨rest, whole, after⟩ := ih (s := .inside ..) form read
                  refine ⟨rest, ?_, after⟩
                  rw [← whole, List.append_assoc]
                  rfl
          · cases read

/-- Octets whose first piece is a character are this character and other octets. -/
theorem exists_of_pieces {bs : Bytes} {c : Char} {ps : List Piece}
    (read : pieces bs = .scalar c :: ps) :
    ∃ rest, bs = encodeChars [c] ++ rest ∧ pieces rest = ps := by
  have holds : State.start.Holds [] := rfl
  exact exists_encodeChars holds read

/-- A character that is read first is all that the text after it has before it. -/
theorem decodeChars?_of_pieces {bs rest : Bytes} {c : Char}
    (read : pieces bs = .scalar c :: pieces rest) :
    decodeChars? bs = (decodeChars? rest).map (c :: ·) := by
  rw [decodeChars?, read, List.mapM_cons]
  cases whole : (pieces rest).mapM Piece.scalar? <;> simp [decodeChars?, whole, Piece.scalar?]

/-- **Well-formed octets are those of the characters that they are read as.** -/
theorem encodeChars_of_decodeChars? {bs : Bytes} {cs : List Char}
    (read : decodeChars? bs = some cs) : encodeChars cs = bs := by
  generalize whole : pieces bs = ps
  induction ps generalizing bs cs with
  | nil =>
      cases bs with
      | nil =>
          cases read
          rfl
      | cons => exact absurd whole (piecesFrom_ne_nil sound_start (.inr nofun))
  | cons p ps ih =>
      cases p with
      | malformed =>
          rw [decodeChars?, whole] at read
          cases read
      | scalar c =>
          obtain ⟨rest, rfl, rfl⟩ := exists_of_pieces whole
          rw [decodeChars?_of_pieces whole, Option.map_eq_some_iff] at read
          obtain ⟨cs, read, rfl⟩ := read
          rw [← ih read rfl]
          simp [encodeChars]

/-- The octets of a text are known from it. -/
theorem encode_of_decode? {bs : Bytes} {s : String} (read : decode? bs = some s) :
    encode s = bs := by
  rw [decode?, Option.map_eq_some_iff] at read
  obtain ⟨cs, read, rfl⟩ := read
  rw [encode, String.toList_ofList]
  exact encodeChars_of_decodeChars? read

end Utf8

end ExitContract
