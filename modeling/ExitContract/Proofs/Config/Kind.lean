import ExitContract.Config.Decode
import ExitContract.Proofs.Config.Overlay

/-!
# What single settings denote

The values that settings of unknown shape have where a number, a truth value, a text or the
name of a log format is asked for, and what can be wrong with them.

**Numbers.** Whether a whole number can be negative is a matter of how it was written and
not of what it denotes. So a number counts as it is, and it is wrong if there is no room
for it.

**Tables.** No table denotes anything here, so that which of two tables stands somewhere
does not matter (`Setting.Kind.denotes_iff_of_like`).

## Main definitions

* `Setting.Kind` — the kinds of values
* `Setting.Kind.Denotes` — the value that a setting has
* `Setting.Kind.Wrong` — a setting that has none, and why

## Main statements

* `Setting.Kind.wrong_iff` — what is wrong denotes nothing, and nothing else does
* `Setting.Kind.decode_eq_ok_iff` — decoders read what is denoted
-/

namespace ExitContract

/-- The whole number that a scalar is, of whichever kind. -/
def Scalar.whole? : Scalar → Option Int
  | .signed n => some n
  | .unsigned n => some n
  | _ => none

namespace Setting

/-- The kinds of values that single settings have. -/
inductive Kind
  /-- A whole number of unsigned 64 bits. -/
  | seconds
  /-- A whole number of signed 32 bits. -/
  | code
  | boolean
  | text
  | format
  deriving DecidableEq, Repr

namespace Kind

/-- The values of a kind. -/
def Value : Kind → Type
  | .seconds => UInt64
  | .code => Int32
  | .boolean => Bool
  | .text => String
  | .format => LogFormat

/-- The whole numbers that there is room for. -/
def Holds : Kind → Int → Prop
  | .seconds, n => 0 ≤ n ∧ n ≤ CommandLine.maxUInt64
  | .code, n => -(CommandLine.maxInt32 : Int) - 1 ≤ n ∧ n ≤ CommandLine.maxInt32
  | _, _ => True

/-- The value that a setting has. -/
inductive Denotes : (k : Kind) → Setting → k.Value → Prop
  | seconds {o : Origin} {s : Scalar} {x : UInt64} (whole : s.whole? = some (x.toNat : Int)) :
      Denotes .seconds (.scalar o s) x
  | code {o : Origin} {s : Scalar} {x : Int32} (whole : s.whole? = some x.toInt) :
      Denotes .code (.scalar o s) x
  | boolean (o : Origin) (b : Bool) : Denotes .boolean (.scalar o (.boolean b)) b
  | text (o : Origin) (s : String) : Denotes .text (.scalar o (.text s)) s
  | character (o : Origin) (c : Char) :
      Denotes .text (.scalar o (.character c)) (String.singleton c)
  | format (o : Origin) (f : LogFormat) : Denotes .format (.scalar o (.text f.name)) f

/-- A setting is of the right type. -/
inductive Fits : Kind → Setting → Prop
  | seconds {o : Origin} {s : Scalar} {n : Int} (whole : s.whole? = some n) :
      Fits .seconds (.scalar o s)
  | code {o : Origin} {s : Scalar} {n : Int} (whole : s.whole? = some n) :
      Fits .code (.scalar o s)
  | boolean (o : Origin) (b : Bool) : Fits .boolean (.scalar o (.boolean b))
  | text (o : Origin) (s : String) : Fits .text (.scalar o (.text s))
  | character (o : Origin) (c : Char) : Fits .text (.scalar o (.character c))
  | format (o : Origin) (s : String) : Fits .format (.scalar o (.text s))

/-- What can be wrong with a setting: it is of another type, there is no room for the
number, or no log format has that name. -/
inductive Wrong : Kind → Setting → Prop
  | type {k : Kind} {v : Setting} (misfit : ¬ k.Fits v) : Wrong k v
  | range {k : Kind} {o : Origin} {s : Scalar} {n : Int} (whole : s.whole? = some n)
      (noRoom : ¬ k.Holds n) : Wrong k (.scalar o s)
  | name {o : Origin} {s : String} (unknown : ∀ f : LogFormat, s ≠ f.name) :
      Wrong .format (.scalar o (.text s))

/-- Reads a setting of a kind. -/
def decode : (k : Kind) → Setting → Except Mismatch k.Value
  | .seconds => Decode.seconds
  | .code => Decode.code
  | .boolean => Decode.boolean
  | .text => Decode.text
  | .format => Decode.format .layered

/-- How a value is written as a setting. -/
def write : (k : Kind) → k.Value → Scalar
  | .seconds, x => .unsigned (UInt64.toNat x)
  | .code, x => .signed (Int32.toInt x)
  | .boolean, b => .boolean b
  | .text, s => .text s
  | .format, f => .text (LogFormat.name f)

variable {k : Kind} {o : Origin} {s : Scalar} {v : Setting}

/-! ### Numbers -/

theorem toNat_le_maxUInt64 (x : UInt64) : x.toNat ≤ CommandLine.maxUInt64 :=
  Nat.le_of_lt_succ x.toNat_lt

theorem ofNat_eq_iff {n : Nat} {x : UInt64} (room : n ≤ CommandLine.maxUInt64) :
    UInt64.ofNat n = x ↔ n = x.toNat := by
  rw [← UInt64.toNat_inj, UInt64.toNat_ofNat_of_lt' (Nat.lt_succ_of_le room)]

theorem holds_toInt (x : Int32) : Kind.code.Holds x.toInt :=
  ⟨x.le_toInt, Int.le_of_lt_add_one x.toInt_lt⟩

theorem ofInt_eq_iff {n : Int} {x : Int32} (room : Kind.code.Holds n) :
    Int32.ofInt n = x ↔ n = x.toInt := by
  rw [← Int32.toInt_inj, Int32.toInt_ofInt_of_le room.1 (Int.lt_add_one_of_le room.2)]

/-- There is room for a number if and only if it is the number of a value. -/
theorem holds_iff_seconds {n : Int} : Kind.seconds.Holds n ↔ ∃ x : UInt64, n = x.toNat := by
  constructor
  · rintro ⟨least, greatest⟩
    have room : n.toNat ≤ CommandLine.maxUInt64 := Int.toNat_le.mpr greatest
    refine ⟨UInt64.ofNat n.toNat, ?_⟩
    rw [← (ofNat_eq_iff room).mp rfl, Int.toNat_of_nonneg least]
  · rintro ⟨x, rfl⟩
    exact ⟨Int.natCast_nonneg _, Int.ofNat_le.mpr (toNat_le_maxUInt64 x)⟩

theorem holds_iff_code {n : Int} : Kind.code.Holds n ↔ ∃ x : Int32, n = x.toInt := by
  constructor
  · intro room
    exact ⟨Int32.ofInt n, (ofInt_eq_iff room).mp rfl⟩
  · rintro ⟨x, rfl⟩
    exact holds_toInt x

/-! ### Right and wrong -/

theorem denotes_seconds_iff {x : UInt64} :
    Kind.seconds.Denotes (.scalar o s) x ↔ s.whole? = some (x.toNat : Int) :=
  ⟨fun | .seconds whole => whole, .seconds⟩

theorem denotes_code_iff {x : Int32} :
    Kind.code.Denotes (.scalar o s) x ↔ s.whole? = some x.toInt :=
  ⟨fun | .code whole => whole, .code⟩

theorem Denotes.fits {x : k.Value} (h : k.Denotes v x) : k.Fits v := by
  cases h with
  | seconds whole => exact .seconds whole
  | code whole => exact .code whole
  | boolean o b => exact .boolean o b
  | text o s => exact .text o s
  | character o c => exact .character o c
  | format o f => exact .format o _

theorem Denotes.not_wrong {x : k.Value} (h : k.Denotes v x) : ¬ k.Wrong v := by
  rintro (misfit | ⟨whole, noRoom⟩ | unknown)
  · exact misfit h.fits
  · cases h with
    | seconds denoted =>
        cases whole.symm.trans denoted
        exact noRoom (holds_iff_seconds.mpr ⟨_, rfl⟩)
    | code denoted =>
        cases whole.symm.trans denoted
        exact noRoom (holds_toInt _)
    | boolean | text | character | format => cases whole
  · cases h with
    | format => exact unknown x rfl

/-- What is not wrong denotes something. -/
theorem exists_denotes (right : ¬ k.Wrong v) : ∃ x, k.Denotes v x := by
  have fits : k.Fits v := by
    by_contra misfit
    exact right (.type misfit)
  cases fits with
  | @seconds o s n whole =>
      have room : Kind.seconds.Holds n := by
        by_contra noRoom
        exact right (.range whole noRoom)
      obtain ⟨x, rfl⟩ := holds_iff_seconds.mp room
      exact ⟨x, .seconds whole⟩
  | @code o s n whole =>
      have room : Kind.code.Holds n := by
        by_contra noRoom
        exact right (.range whole noRoom)
      obtain ⟨x, rfl⟩ := holds_iff_code.mp room
      exact ⟨x, .code whole⟩
  | boolean o b => exact ⟨b, .boolean o b⟩
  | text o s => exact ⟨s, .text o s⟩
  | character o c => exact ⟨_, .character o c⟩
  | format o s =>
      by_contra none
      exact right (.name fun f same => none ⟨f, same ▸ .format o f⟩)

/-- **What is wrong denotes nothing, and nothing else does.** -/
theorem wrong_iff : k.Wrong v ↔ ∀ x, ¬ k.Denotes v x := by
  constructor
  · intro wrong x denoted
    exact denoted.not_wrong wrong
  · intro nothing
    by_contra right
    obtain ⟨x, denoted⟩ := exists_denotes right
    exact nothing x denoted

/-- Which of two tables stands somewhere does not matter. -/
theorem denotes_iff_of_like {w : Setting} (like : v.Like w) {x : k.Value} :
    k.Denotes v x ↔ k.Denotes w x := by
  rcases like with rfl | ⟨hv, hw⟩
  · rfl
  · constructor
    · rintro (_ | _ | _ | _ | _ | _) <;> cases hv
    · rintro (_ | _ | _ | _ | _ | _) <;> cases hw

theorem wrong_iff_of_like {w : Setting} (like : v.Like w) : k.Wrong v ↔ k.Wrong w := by
  rw [wrong_iff, wrong_iff]
  exact forall_congr' fun x => not_congr (denotes_iff_of_like like)

/-- What was written is denoted. -/
theorem denotes_write (o : Origin) (k : Kind) (x : k.Value) :
    k.Denotes (.scalar o (k.write x)) x := by
  cases k with
  | seconds => exact .seconds rfl
  | code => exact .code rfl
  | boolean => exact .boolean o x
  | text => exact .text o x
  | format => exact .format o x

theorem sound_write (k : Kind) (x : k.Value) : (k.write x).Sound := by
  cases k with
  | code =>
      refine le_trans (holds_toInt x).2 ?_
      decide
  | seconds | boolean | text | format => trivial

/-! ### Decoders -/

theorem seconds_eq_ok_iff (sound : v.Sound) {x : UInt64} :
    Decode.seconds v = .ok x ↔ Kind.seconds.Denotes v x := by
  cases sound with
  | list | table => exact ⟨nofun, nofun⟩
  | @scalar o s bound =>
      rw [denotes_seconds_iff]
      cases s with
      | unsigned n =>
          rw [Decode.seconds, Scalar.whole?, Option.some_inj, Int.natCast_inj]
          by_cases room : n ≤ CommandLine.maxUInt64
          · rw [if_pos room, Except.ok.injEq, ofNat_eq_iff room]
          · rw [if_neg room]
            refine ⟨nofun, ?_⟩
            rintro rfl
            exact absurd (toNat_le_maxUInt64 x) room
      | signed n =>
          rw [Decode.seconds, Scalar.whole?, Option.some_inj]
          by_cases least : 0 ≤ n
          · have room : n.toNat ≤ CommandLine.maxUInt64 :=
              le_trans (Int.toNat_le.mpr bound) (by decide)
            rw [if_pos least, Except.ok.injEq, ofNat_eq_iff room]
            omega
          · rw [if_neg least]
            refine ⟨nofun, ?_⟩
            rintro rfl
            exact absurd (Int.natCast_nonneg _) least
      | text | character | boolean | real | nothing => exact ⟨nofun, nofun⟩

theorem code_eq_ok_iff {x : Int32} : Decode.code v = .ok x ↔ Kind.code.Denotes v x := by
  have check (n : Int) :
      (if -(CommandLine.maxInt32 : Int) - 1 ≤ n ∧ n ≤ CommandLine.maxInt32 then
        Except.ok (Int32.ofInt n) else v.wrongValue "i32") = .ok x ↔ n = x.toInt := by
    split
    · next room => rw [Except.ok.injEq, ofInt_eq_iff room]
    · next noRoom =>
        refine ⟨nofun, ?_⟩
        rintro rfl
        exact absurd (holds_toInt x) noRoom
  cases v with
  | list | table => exact ⟨nofun, nofun⟩
  | scalar o s =>
      rw [denotes_code_iff]
      cases s with
      | unsigned n | signed n =>
          rw [Scalar.whole?, Option.some_inj]
          exact check n
      | text | character | boolean | real | nothing => exact ⟨nofun, nofun⟩

theorem boolean_eq_ok_iff {x : Bool} : Decode.boolean v = .ok x ↔ Kind.boolean.Denotes v x := by
  constructor
  · intro read
    unfold Decode.boolean at read
    split at read
    · cases read
      exact .boolean _ x
    · cases read
  · rintro ⟨⟩
    rfl

theorem text_eq_ok_iff {x : String} : Decode.text v = .ok x ↔ Kind.text.Denotes v x := by
  constructor
  · intro read
    unfold Decode.text at read
    split at read
    · cases read
      exact .text _ x
    · cases read
      exact .character _ _
    · cases read
  · rintro (_ | _) <;> rfl

theorem formatNamed_eq_ok_iff {name : String} {f : LogFormat} :
    Decode.formatNamed v name = .ok f ↔ name = f.name := by
  constructor
  · intro read
    unfold Decode.formatNamed at read
    split at read
    · next same =>
        cases read
        exact same
    · split at read
      · next same =>
          cases read
          exact same
      · cases read
  · rintro rfl
    cases f <;> rfl

theorem not_nothing (sound : v.Sound) : Decode.nothing v ≠ .ok () := by
  cases sound with
  | list | table => nofun
  | @scalar o s possible =>
      cases s with
      | nothing => exact possible.elim
      | text | character | boolean | signed | unsigned | real => nofun

theorem formatOfEntry_ne_ok (sound : v.Sound) {name : String} {f : LogFormat} :
    Decode.formatOfEntry name v ≠ .ok f := by
  unfold Decode.formatOfEntry
  cases Decode.formatNamed v name with
  | error m => nofun
  | ok g =>
      cases inner : Decode.nothing v with
      | error m =>
          rw [Except.bind]
          nofun
      | ok u => exact absurd inner (not_nothing sound)

/-- A format is denoted by its name. The decoder also knows another way to write one, as a
table with nothing in it, but nothing is what no source can say. -/
theorem format_eq_ok_iff (sound : v.Sound) {x : LogFormat} :
    Decode.format .layered v = .ok x ↔ Kind.format.Denotes v x := by
  cases sound with
  | list => exact ⟨nofun, nofun⟩
  | @table o es order entries =>
      refine ⟨fun read => ?_, nofun⟩
      cases es with
      | nil => cases read
      | cons e es => exact absurd read (formatOfEntry_ne_ok (entries e List.mem_cons_self))
  | @scalar o s =>
      cases s with
      | text s =>
          refine formatNamed_eq_ok_iff.trans ⟨?_, ?_⟩
          · rintro rfl
            exact .format o x
          · rintro ⟨⟩
            rfl
      | character | boolean | signed | unsigned | real | nothing => exact ⟨nofun, nofun⟩

/-- **Decoders read what is denoted.** -/
theorem decode_eq_ok_iff (sound : v.Sound) {x : k.Value} :
    k.decode v = .ok x ↔ k.Denotes v x := by
  cases k with
  | seconds => exact seconds_eq_ok_iff sound
  | code => exact code_eq_ok_iff
  | boolean => exact boolean_eq_ok_iff
  | text => exact text_eq_ok_iff
  | format => exact format_eq_ok_iff sound

end Kind

end Setting

end ExitContract
