import ExitContract.Proofs.Text.LossyText

/-!
# Written text is read back

The octets that a text is written in are well formed, and reading them gives the text.

A character is written in one to four octets: its bits in groups of six, the last
groups in octets of their own and the first one in what the opening octet leaves for
it. The reader puts the groups together again, so before each octet it holds the bits
of the character without the groups still owed, which is what is carried through the
octets of a character here.

**The narrow second octets.** After four of the opening octets the reader takes fewer
second octets than usual, to refuse overlong forms, surrogates and what lies beyond the
last character. A character is none of these, so its second octet is always taken.

## Main definitions

* `Utf8.Opens` — an octet starts a form that takes a given second octet

## Main statements

* `Utf8.pieces_encodeChar` — the octets of a character are read as it
* `Utf8.decode?_encode` — the octets of a text are read as it
-/

namespace ExitContract

namespace Utf8

/-- The octet starts a form with these bits and so many octets owed after the second
one, and takes `next` as the second one. -/
def Opens (b : UInt8) (bits owed next : Nat) : Prop :=
  ∃ low high, opening b = ([], .inside bits owed low high) ∧
    low.toNat ≤ next ∧ next ≤ high.toNat

/-! ### Opening octets -/

/-- Every group lies in the range that the reader usually takes. -/
theorem group_range (v : Nat) :
    (0x80 : UInt8).toNat ≤ v % 64 + 128 ∧ v % 64 + 128 ≤ (0xBF : UInt8).toNat := by
  simp only [UInt8.reduceToNat]
  omega

/-- The opening octet of a form of two. -/
theorem opens_two {v : Nat} (least : 0x80 ≤ v) (greatest : v ≤ 0x7FF) :
    Opens (UInt8.ofNat (v / 64 % 32 + 192)) (v / 64) 0 (v % 64 + 128) := by
  have value : (UInt8.ofNat (v / 64 % 32 + 192)).toNat = v / 64 + 192 := by
    rw [UInt8.toNat_ofNat']
    omega
  unfold Opens opening
  simp only [UInt8.lt_iff_toNat_lt, value, UInt8.reduceToNat]
  rw [if_neg (by omega), if_neg (by omega), if_pos (by omega)]
  exact ⟨0x80, 0xBF, by rw [Nat.add_sub_cancel], group_range v⟩

/-- The opening octet of a form of three. -/
theorem opens_three {v : Nat} (least : 0x800 ≤ v) (greatest : v ≤ 0xFFFF)
    (valid : v < 0xD800 ∨ 0xDFFF < v) :
    Opens (UInt8.ofNat (v / 4096 % 16 + 224)) (v / 4096) 1 (v / 64 % 64 + 128) := by
  have value : (UInt8.ofNat (v / 4096 % 16 + 224)).toNat = v / 4096 + 224 := by
    rw [UInt8.toNat_ofNat']
    omega
  unfold Opens opening
  simp only [UInt8.lt_iff_toNat_lt, ← UInt8.toNat_inj, value, UInt8.reduceToNat]
  rw [if_neg (by omega), if_neg (by omega), if_neg (by omega)]
  split
  · have bits : v / 4096 = 0 := by omega
    exact ⟨0xA0, 0xBF, by rw [bits], by simp only [UInt8.reduceToNat]; omega⟩
  split
  · have bits : v / 4096 = 13 := by omega
    exact ⟨0x80, 0x9F, by rw [bits], by simp only [UInt8.reduceToNat]; omega⟩
  · rw [if_pos (by omega)]
    exact ⟨0x80, 0xBF, by rw [Nat.add_sub_cancel], group_range _⟩

/-- The opening octet of a form of four. -/
theorem opens_four {v : Nat} (least : 0x10000 ≤ v) (greatest : v < 0x110000) :
    Opens (UInt8.ofNat (v / 262144 % 8 + 240)) (v / 262144) 2 (v / 4096 % 64 + 128) := by
  have value : (UInt8.ofNat (v / 262144 % 8 + 240)).toNat = v / 262144 + 240 := by
    rw [UInt8.toNat_ofNat']
    omega
  unfold Opens opening
  simp only [UInt8.lt_iff_toNat_lt, ← UInt8.toNat_inj, value, UInt8.reduceToNat]
  rw [if_neg (by omega), if_neg (by omega), if_neg (by omega), if_neg (by omega),
    if_neg (by omega), if_neg (by omega)]
  split
  · have bits : v / 262144 = 0 := by omega
    exact ⟨0x90, 0xBF, by rw [bits], by simp only [UInt8.reduceToNat]; omega⟩
  split
  · exact ⟨0x80, 0xBF, by rw [Nat.add_sub_cancel], group_range _⟩
  · have bits : v / 262144 = 4 := by omega
    rw [if_pos (by omega)]
    exact ⟨0x80, 0x8F, by rw [bits], by simp only [UInt8.reduceToNat]; omega⟩

/-! ### Octets after the first -/

/-- An octet in the range that the reader takes adds its group of bits. -/
theorem step_group (v owed : Nat) {low high : UInt8} (least : low.toNat ≤ v % 64 + 128)
    (greatest : v % 64 + 128 ≤ high.toNat) :
    step (.inside (v / 64) owed low high) (UInt8.ofNat (v % 64 + 128)) =
      match owed with
      | 0 => ([.scalar (Char.ofNat v)], .start)
      | owed + 1 => ([], .inside v owed 0x80 0xBF) := by
  have value : (UInt8.ofNat (v % 64 + 128)).toNat = v % 64 + 128 := by
    rw [UInt8.toNat_ofNat']
    omega
  have within : low ≤ UInt8.ofNat (v % 64 + 128) ∧ UInt8.ofNat (v % 64 + 128) ≤ high := by
    rw [UInt8.le_iff_toNat_le, UInt8.le_iff_toNat_le, value]
    exact ⟨least, greatest⟩
  have bits : v / 64 * 64 + (v % 64 + 128 - 128) = v := by omega
  cases owed with
  | zero => simp only [step, if_pos within, value, bits]
  | succ owed => simp only [step, if_pos within, value, bits]

/-- The last octet of a form gives its character. -/
theorem piecesFrom_last (v : Nat) {low high : UInt8} (least : low.toNat ≤ v % 64 + 128)
    (greatest : v % 64 + 128 ≤ high.toNat) (rest : Bytes) :
    piecesFrom (.inside (v / 64) 0 low high) (UInt8.ofNat (v % 64 + 128) :: rest) =
      .scalar (Char.ofNat v) :: pieces rest := by
  rw [piecesFrom_cons, step_group v 0 least greatest]
  rfl

/-- An octet before the last one leaves the reader with one group more. -/
theorem piecesFrom_group (v owed : Nat) {low high : UInt8}
    (least : low.toNat ≤ v % 64 + 128) (greatest : v % 64 + 128 ≤ high.toNat)
    (rest : Bytes) :
    piecesFrom (.inside (v / 64) (owed + 1) low high) (UInt8.ofNat (v % 64 + 128) :: rest) =
      piecesFrom (.inside v owed 0x80 0xBF) rest := by
  rw [piecesFrom_cons, step_group v (owed + 1) least greatest]
  rfl

/-- What the reader has before it after an opening octet. -/
theorem piecesFrom_opens {b : UInt8} {bits owed next : Nat} (h : Opens b bits owed next)
    (rest : Bytes) : ∃ low high, low.toNat ≤ next ∧ next ≤ high.toNat ∧
      piecesFrom .start (b :: rest) = piecesFrom (.inside bits owed low high) rest := by
  obtain ⟨low, high, opened, least, greatest⟩ := h
  refine ⟨low, high, least, greatest, ?_⟩
  rw [piecesFrom_cons, step, opened]
  rfl

/-! ### Forms -/

/-- A form of one octet. -/
theorem pieces_one {v : Nat} (small : v < 0x80) (rest : Bytes) :
    pieces (UInt8.ofNat v :: rest) = .scalar (Char.ofNat v) :: pieces rest := by
  have value : (UInt8.ofNat v).toNat = v := by
    rw [UInt8.toNat_ofNat']
    omega
  have single := step_single sound_start (b := UInt8.ofNat v) (by omega)
  rw [pieces, piecesFrom_cons, single, value]
  rfl

/-- A form of two octets. -/
theorem pieces_two {v : Nat} (least : 0x80 ≤ v) (greatest : v ≤ 0x7FF) (rest : Bytes) :
    pieces (UInt8.ofNat (v / 64 % 32 + 192) :: UInt8.ofNat (v % 64 + 128) :: rest) =
      .scalar (Char.ofNat v) :: pieces rest := by
  obtain ⟨low, high, hlow, hhigh, opened⟩ :=
    piecesFrom_opens (opens_two least greatest) (UInt8.ofNat (v % 64 + 128) :: rest)
  rw [pieces, opened, piecesFrom_last v hlow hhigh]

/-- A form of three octets. -/
theorem pieces_three {v : Nat} (least : 0x800 ≤ v) (greatest : v ≤ 0xFFFF)
    (valid : v < 0xD800 ∨ 0xDFFF < v) (rest : Bytes) :
    pieces (UInt8.ofNat (v / 4096 % 16 + 224) :: UInt8.ofNat (v / 64 % 64 + 128) ::
        UInt8.ofNat (v % 64 + 128) :: rest) =
      .scalar (Char.ofNat v) :: pieces rest := by
  have outer : v / 4096 = v / 64 / 64 := by omega
  obtain ⟨low, high, hlow, hhigh, opened⟩ :=
    piecesFrom_opens (opens_three least greatest valid)
      (UInt8.ofNat (v / 64 % 64 + 128) :: UInt8.ofNat (v % 64 + 128) :: rest)
  rw [pieces, opened, outer, piecesFrom_group (v / 64) 0 hlow hhigh,
    piecesFrom_last v (group_range v).1 (group_range v).2]

/-- A form of four octets. -/
theorem pieces_four {v : Nat} (least : 0x10000 ≤ v) (greatest : v < 0x110000)
    (rest : Bytes) :
    pieces (UInt8.ofNat (v / 262144 % 8 + 240) :: UInt8.ofNat (v / 4096 % 64 + 128) ::
        UInt8.ofNat (v / 64 % 64 + 128) :: UInt8.ofNat (v % 64 + 128) :: rest) =
      .scalar (Char.ofNat v) :: pieces rest := by
  have outer : v / 262144 = v / 4096 / 64 := by omega
  have inner : v / 4096 = v / 64 / 64 := by omega
  have group := group_range (v / 64)
  obtain ⟨low, high, hlow, hhigh, opened⟩ :=
    piecesFrom_opens (opens_four least greatest) (UInt8.ofNat (v / 4096 % 64 + 128) ::
      UInt8.ofNat (v / 64 % 64 + 128) :: UInt8.ofNat (v % 64 + 128) :: rest)
  rw [pieces, opened, outer, piecesFrom_group (v / 4096) 1 hlow hhigh, inner,
    piecesFrom_group (v / 64) 0 group.1 group.2,
    piecesFrom_last v (group_range v).1 (group_range v).2]

/-! ### Characters and texts -/

/-- **The octets of a character are read as it**, whatever follows them. -/
theorem pieces_encodeChar (c : Char) (rest : Bytes) :
    pieces (String.utf8EncodeChar c ++ rest) = .scalar c :: pieces rest := by
  obtain ⟨v, hv⟩ : ∃ v, v = c.val.toNat := ⟨_, rfl⟩
  have valid : v < 0xD800 ∨ 0xDFFF < v ∧ v < 0x110000 := hv ▸ c.valid
  have self : Char.ofNat v = c := by
    rw [hv]
    exact Char.ofNat_toNat c
  -- the number stays a variable: the forms are told apart by its size alone
  unfold String.utf8EncodeChar
  simp only [← hv]
  rw [← self]
  split
  · exact pieces_one (by omega) rest
  split
  · exact pieces_two (by omega) (by omega) rest
  split
  · exact pieces_three (by omega) (by omega) (by omega) rest
  · exact pieces_four (by omega) (by omega) rest

/-- The octets of characters are read as them. -/
@[simp] theorem pieces_encodeChars (cs : List Char) :
    pieces (encodeChars cs) = cs.map .scalar := by
  induction cs with
  | nil => rfl
  | cons c cs ih =>
      rw [encodeChars, List.flatMap_cons, pieces_encodeChar, List.map_cons, ← ih]
      rfl

/-- Characters are taken as they are. -/
theorem mapM_scalar? (cs : List Char) :
    (cs.map Piece.scalar).mapM Piece.scalar? = some cs := by
  induction cs with
  | nil => rfl
  | cons c cs ih => simp [List.mapM_cons, ih, Piece.scalar?]

/-- **The octets of a text are read as it.** -/
@[simp] theorem decode?_encode (s : String) : decode? (encode s) = some s := by
  rw [decode?, decodeChars?, encode, pieces_encodeChars, mapM_scalar?, Option.map_some,
    String.ofList_toList]

/-- Nothing is lost of the octets of a text. -/
@[simp] theorem decodeLossy_encode (s : String) : decodeLossy (encode s) = s := by
  have self : Piece.lossy ∘ Piece.scalar = id := rfl
  rw [decodeLossy, decodeLossyChars, encode, pieces_encodeChars, List.map_map, self,
    List.map_id, String.ofList_toList]

end Utf8

end ExitContract
