import ExitContract.Text.Utf8

/-!
# Single octets in lossy text

An octet below `0x80` stands for itself in lossy text wherever it occurs, even
in the middle of a form that it cuts short, and nothing but that octet is read
as its character.

**Cutting.** A form that is owed more octets takes none below `0x80`. So such an
octet always ends what came before it, as one malformed piece or none, and what
comes after it is read from the start: lossy reading can be cut at it.

**Nothing else.** The character of a longer form is never one of these. The
reader remembers the bits of a form, and the invariant below keeps them large
enough: overlong forms are what the ranges of second octets rule out.

## Main definitions

* `Utf8.State.Sound` — what holds of a reader between two octets
* `Utf8.Reads` — what reading one octet can come to

## Main statements

* `Utf8.step_reads` — every octet is read in one of these ways
* `Utf8.decodeLossyChars_append_single` — reading can be cut at a single octet
* `Utf8.mem_decodeLossyChars_iff` — its character is in the text where it is
* `Utf8.getLast?_decodeLossyChars_iff` — and ends the text where it ends the run
-/

namespace ExitContract

namespace Utf8

/-! ### What one octet comes to -/

/-- What holds of a reader between two octets: the next octet of a form is none
below `0x80`, and the bits read so far exclude a character below `0x80`. -/
def State.Sound : State → Prop
  | .start => True
  | .inside bits owed low _ =>
      0x80 ≤ low.toNat ∧ (owed = 0 → 2 ≤ bits) ∧ (1 ≤ bits ∨ 0x90 ≤ low.toNat)

theorem sound_start : State.start.Sound := trivial

/-- What reading an octet outside of forms, or as part of one, can come to. -/
inductive Reads (b : UInt8) : List Piece × State → Prop
  /-- The octet is a character. -/
  | single (small : b.toNat < 0x80) :
      Reads b ([.scalar (Char.ofNat b.toNat)], .start)
  /-- No character starts with the octet. -/
  | stray (large : 0x80 ≤ b.toNat) : Reads b ([.malformed], .start)
  /-- The octet starts a form or goes on with it. -/
  | part (large : 0x80 ≤ b.toNat) (bits owed : Nat) (low high : UInt8)
      (sound : (State.inside bits owed low high).Sound) :
      Reads b ([], .inside bits owed low high)
  /-- The octet is the last of a form. -/
  | last (large : 0x80 ≤ b.toNat) (n : Nat) (far : 0x80 ≤ n) :
      Reads b ([.scalar (Char.ofNat n)], .start)

/-- What an octet between characters comes to. -/
theorem opening_reads (b : UInt8) : Reads b (opening b) := by
  unfold opening
  simp only [UInt8.lt_iff_toNat_lt, ← UInt8.toNat_inj, UInt8.reduceToNat]
  split
  · next small => exact .single small
  split
  · exact .stray (by omega)
  split
  · exact .part (by omega) _ _ _ _ ⟨by decide, by omega, by omega⟩
  split
  · exact .part (by omega) _ _ _ _ ⟨by decide, by omega, .inr (by decide)⟩
  split
  · exact .part (by omega) _ _ _ _ ⟨by decide, by omega, by omega⟩
  split
  · exact .part (by omega) _ _ _ _ ⟨by decide, by omega, by omega⟩
  split
  · exact .part (by omega) _ _ _ _ ⟨by decide, by omega, .inr (by decide)⟩
  split
  · exact .part (by omega) _ _ _ _ ⟨by decide, by omega, by omega⟩
  split
  · exact .part (by omega) _ _ _ _ ⟨by decide, by omega, by omega⟩
  · exact .stray (by omega)

/-- **Every octet is read in one of these ways**, perhaps after a form that it
cuts short. -/
theorem step_reads {s : State} (h : s.Sound) (b : UInt8) :
    Reads b (step s b) ∨
      s ≠ .start ∧ step s b = (.malformed :: (opening b).1, (opening b).2) := by
  cases s with
  | start => exact .inl (opening_reads b)
  | inside bits owed low high =>
      obtain ⟨hlow, hbits, hform⟩ := h
      rw [step]
      by_cases within : low ≤ b ∧ b ≤ high
      · rw [if_pos within]
        have least : low.toNat ≤ b.toNat := UInt8.le_iff_toNat_le.mp within.1
        have large : 0x80 ≤ b.toNat := Nat.le_trans hlow least
        left
        cases owed with
        | zero =>
            have := hbits rfl
            exact .last large _ (by omega)
        | succ owed =>
            exact .part large _ _ _ _ ⟨by decide, by omega, by omega⟩
      · rw [if_neg within]
        exact .inr ⟨nofun, rfl⟩

/-- Every octet leaves a sound state. -/
theorem State.Sound.step {s : State} (h : s.Sound) (b : UInt8) :
    (Utf8.step s b).2.Sound := by
  have sound_of_reads {r : List Piece × State} (reads : Reads b r) : r.2.Sound := by
    cases reads with
    | part _ _ _ _ _ sound => exact sound
    | _ => trivial
  rcases step_reads h b with reads | ⟨-, cut⟩
  · exact sound_of_reads reads
  · rw [cut]
    have sound : (opening b).2.Sound := sound_of_reads (opening_reads b)
    exact sound

/-- A small octet ends a form that is still open, and is a character itself. -/
theorem step_single {s : State} (h : s.Sound) {b : UInt8} (small : b.toNat < 0x80) :
    step s b = (piecesFrom s [] ++ [.scalar (Char.ofNat b.toNat)], .start) := by
  have opened : opening b = ([.scalar (Char.ofNat b.toNat)], .start) := by
    rw [opening, if_pos (UInt8.lt_iff_toNat_lt.mpr small)]
  cases s with
  | start => exact opened
  | inside bits owed low high =>
      have outside : ¬ (low ≤ b ∧ b ≤ high) := by
        intro within
        have := UInt8.le_iff_toNat_le.mp within.1
        have := h.1
        omega
      rw [step, if_neg outside, opened]
      rfl

/-! ### Cutting at a single octet -/

theorem piecesFrom_cons (s : State) (b : UInt8) (bs : Bytes) :
    piecesFrom s (b :: bs) = (step s b).1 ++ piecesFrom (step s b).2 bs := by
  cases s <;> rfl

/-- Reading can be cut at a small octet. -/
theorem piecesFrom_append_single {s : State} (h : s.Sound) (xs ys : Bytes)
    {b : UInt8} (small : b.toNat < 0x80) :
    piecesFrom s (xs ++ b :: ys) =
      piecesFrom s xs ++ .scalar (Char.ofNat b.toNat) :: pieces ys := by
  induction xs generalizing s with
  | nil =>
      rw [List.nil_append, piecesFrom_cons, step_single h small, List.append_assoc]
      rfl
  | cons x xs ih =>
      rw [List.cons_append, piecesFrom_cons, ih (h.step x), piecesFrom_cons,
        List.append_assoc]

/-- **Lossy reading can be cut at a small octet**, which is read as itself. -/
theorem decodeLossyChars_append_single (xs ys : Bytes) {b : UInt8}
    (small : b.toNat < 0x80) :
    decodeLossyChars (xs ++ b :: ys) =
      decodeLossyChars xs ++ Char.ofNat b.toNat :: decodeLossyChars ys := by
  have cut : pieces (xs ++ b :: ys) = pieces xs ++ .scalar _ :: pieces ys :=
    piecesFrom_append_single sound_start xs ys small
  rw [decodeLossyChars, cut, List.map_append, List.map_cons]
  rfl

/-! ### Nothing else is read as its character -/

theorem toNat_ofNat_of_small {n : Nat} (small : n < 0x80) :
    (Char.ofNat n).toNat = n := by
  rw [Char.ofNat, dif_pos (.inl (by omega))]
  rfl

/-- A number is that of its character, unless it is no character at all. -/
theorem toNat_ofNat_cases (n : Nat) :
    (Char.ofNat n).toNat = n ∨ (Char.ofNat n).toNat = 0 := by
  by_cases valid : n.isValidChar
  · left
    rw [Char.ofNat, dif_pos valid]
    rfl
  · right
    rw [Char.ofNat, dif_neg valid]
    rfl

variable {a : UInt8}

/-- A large number does not name the character of a small octet. -/
theorem ofNat_ne_of_large (small : a.toNat < 0x80) (nonzero : a ≠ 0) {n : Nat}
    (large : 0x80 ≤ n) : Char.ofNat n ≠ Char.ofNat a.toNat := by
  intro same
  have value := congrArg Char.toNat same
  rw [toNat_ofNat_of_small small] at value
  rcases toNat_ofNat_cases n with self | zero
  · omega
  · exact nonzero (UInt8.toNat_inj.mp (value.symm.trans zero))

/-- A malformed piece is not read as the character of a small octet. -/
theorem lossy_malformed_ne (small : a.toNat < 0x80) :
    Piece.malformed.lossy ≠ Char.ofNat a.toNat := by
  intro same
  have value := congrArg Char.toNat same
  rw [toNat_ofNat_of_small small] at value
  have mark : Piece.malformed.lossy.toNat = 0xFFFD := rfl
  omega

/-- Reading an octet gives the character of a small one only if it is that. -/
theorem Reads.eq_of_mem {b : UInt8} {r : List Piece × State} (h : Reads b r)
    (small : a.toNat < 0x80) (nonzero : a ≠ 0) {p : Piece} (mem : p ∈ r.1)
    (read : p.lossy = Char.ofNat a.toNat) : b = a := by
  cases h with
  | single small' =>
      rw [List.mem_singleton.mp mem] at read
      have value := congrArg Char.toNat read
      rw [Piece.lossy, toNat_ofNat_of_small small', toNat_ofNat_of_small small] at value
      exact UInt8.toNat_inj.mp value
  | stray =>
      rw [List.mem_singleton.mp mem] at read
      exact absurd read (lossy_malformed_ne small)
  | part => cases mem
  | last _ n far =>
      rw [List.mem_singleton.mp mem] at read
      exact absurd read (ofNat_ne_of_large small nonzero far)

/-- An octet completes a piece that is read as a small one only if it is that. -/
theorem eq_of_mem_step {s : State} (h : s.Sound) {b : UInt8}
    (small : a.toNat < 0x80) (nonzero : a ≠ 0) {p : Piece} (mem : p ∈ (step s b).1)
    (read : p.lossy = Char.ofNat a.toNat) : b = a := by
  rcases step_reads h b with reads | ⟨-, cut⟩
  · exact reads.eq_of_mem small nonzero mem read
  · rw [cut] at mem
    rcases List.mem_cons.mp mem with rfl | mem
    · exact absurd read (lossy_malformed_ne small)
    · exact (opening_reads b).eq_of_mem small nonzero mem read

/-- The character of a small octet is read only where the octet is. -/
theorem mem_of_mem_piecesFrom {s : State} (h : s.Sound) (small : a.toNat < 0x80)
    (nonzero : a ≠ 0) {bs : Bytes} {p : Piece} (mem : p ∈ piecesFrom s bs)
    (read : p.lossy = Char.ofNat a.toNat) : a ∈ bs := by
  induction bs generalizing s with
  | nil =>
      cases s with
      | start => cases mem
      | inside =>
          rw [List.mem_singleton.mp mem] at read
          exact absurd read (lossy_malformed_ne small)
  | cons b bs ih =>
      rw [piecesFrom_cons] at mem
      rcases List.mem_append.mp mem with mem | mem
      · rw [eq_of_mem_step h small nonzero mem read]
        exact List.mem_cons_self
      · exact List.mem_cons_of_mem b (ih (h.step b) mem)

/-- **The character of a small octet is in a lossy text where the octet is.** -/
theorem mem_decodeLossyChars_iff (a : UInt8) (small : a.toNat < 0x80)
    (nonzero : a ≠ 0) (bs : Bytes) : Char.ofNat a.toNat ∈ decodeLossyChars bs ↔ a ∈ bs := by
  constructor
  · intro mem
    obtain ⟨p, mem, read⟩ := List.mem_map.mp mem
    exact mem_of_mem_piecesFrom sound_start small nonzero mem read
  · intro mem
    obtain ⟨xs, ys, rfl⟩ := List.append_of_mem mem
    rw [decodeLossyChars_append_single xs ys small]
    exact List.mem_append_right _ List.mem_cons_self

/-! ### The end of a text -/

/-- An octet that completes nothing leaves the reader inside a form. -/
theorem Reads.inside_of_nil {b : UInt8} {r : List Piece × State} (h : Reads b r)
    (nothing : r.1 = []) : r.2 ≠ .start := by
  cases h with
  | part => nofun
  | _ => cases nothing

/-- Whatever is read leaves a piece. -/
theorem piecesFrom_ne_nil {s : State} (h : s.Sound) {bs : Bytes}
    (something : s ≠ .start ∨ bs ≠ []) : piecesFrom s bs ≠ [] := by
  induction bs generalizing s with
  | nil =>
      cases s with
      | start => simp at something
      | inside => nofun
  | cons b bs ih =>
      intro nothing
      rw [piecesFrom_cons, List.append_eq_nil_iff] at nothing
      refine ih (h.step b) (.inl ?_) nothing.2
      rcases step_reads h b with reads | ⟨-, cut⟩
      · exact reads.inside_of_nil nothing.1
      · rw [cut] at nothing
        cases nothing.1

theorem decodeLossyChars_ne_nil {bs : Bytes} (h : bs ≠ []) :
    decodeLossyChars bs ≠ [] := by
  intro nothing
  exact piecesFrom_ne_nil sound_start (.inr h) (List.map_eq_nil_iff.mp nothing)

/-- **The character of a small octet ends a lossy text where the octet ends the
run.** After its last occurrence come octets that are not read as it. -/
theorem getLast?_decodeLossyChars_iff (a : UInt8) (small : a.toNat < 0x80)
    (nonzero : a ≠ 0) (bs : Bytes) :
    (decodeLossyChars bs).getLast? = some (Char.ofNat a.toNat) ↔
      bs.getLast? = some a := by
  constructor
  · intro last
    have mem : a ∈ bs.reverse :=
      List.mem_reverse.mpr
        ((mem_decodeLossyChars_iff a small nonzero bs).mp (List.mem_of_getLast? last))
    obtain ⟨after, before, split, absent⟩ := List.eq_append_cons_of_mem mem
    have split : bs = before.reverse ++ a :: after.reverse := by
      rw [← List.reverse_reverse bs, split, List.reverse_append, List.reverse_cons,
        List.append_assoc, List.singleton_append]
    have ended : after = [] := by
      apply Classical.byContradiction
      intro more
      have tail : decodeLossyChars after.reverse ≠ [] :=
        decodeLossyChars_ne_nil (mt List.reverse_eq_nil_iff.mp more)
      rw [split, decodeLossyChars_append_single _ _ small, List.append_cons,
        List.getLast?_append, List.getLast?_eq_some_getLast tail] at last
      have mem := List.getLast_mem tail
      rw [Option.some.inj last, mem_decodeLossyChars_iff a small nonzero] at mem
      exact absent (List.mem_reverse.mp mem)
    rw [split, ended, List.getLast?_append]
    rfl
  · intro last
    obtain ⟨xs, rfl⟩ := List.getLast?_eq_some_iff.mp last
    rw [decodeLossyChars_append_single xs [] small, List.getLast?_append]
    rfl

end Utf8

end ExitContract
