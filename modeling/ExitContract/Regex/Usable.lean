import ExitContract.Regex.Reader

/-!
# Usable regular expressions

Which expressions a matcher of text can be made of.

The matcher knows ASCII only, and it works on text, not on octets. So what needs to know more of
Unicode cannot be used: letter case, words, and the classes of letters, digits and blanks. Where
Unicode is switched off, what could match a part of a character cannot be used.

## Main definitions

* `Regex.Mode` — the flags that matter
* `Regex.usable` — whether a matcher can be made
* `Regex.isUsableText` — the same for a text
-/

namespace ExitContract

namespace Regex

/-- The flags that decide about what can be used. -/
structure Mode where
  caseless : Bool
  unicode : Bool
  deriving DecidableEq, Repr

namespace Mode

/-- The mode at the start. -/
def initial : Mode := ⟨false, true⟩

/-- The mode after a list of flags. -/
def apply (m : Mode) (items : List FlagItem) : Mode where
  caseless := (FlagItem.state? .caseless items).getD m.caseless
  unicode := (FlagItem.state? .unicode items).getD m.unicode

/-- Whether letter case matters to what no table says it of. -/
def foldsUnicode (m : Mode) : Bool := m.caseless && m.unicode

/-- Whether a character can be used: not as an octet that is none of ASCII. -/
def allowsLiteral (m : Mode) (l : Literal) : Bool :=
  !m.foldsUnicode && (m.unicode || !l.octet || l.char.toNat < 0x80)

/-- Whether a character can be used between brackets. Without Unicode only octets can. -/
def allowsMember (m : Mode) (l : Literal) : Bool :=
  !m.foldsUnicode && (m.unicode || l.char.toNat < 0x80)

/-- Whether a class can be used that has a letter after a backslash. -/
def allowsLettered (m : Mode) (negated : Bool) : Bool := !m.unicode && !negated

/-- Whether a class can be negated: without Unicode it would match parts of characters. -/
def allowsNegated (m : Mode) (negated : Bool) : Bool := m.unicode || !negated

end Mode

mutual

/-- Whether a set can be used. -/
def CharSet.usable (m : Mode) : CharSet → Bool
  | .empty => true
  | .literal l => m.allowsMember l
  | .range first last => m.allowsMember first && m.allowsMember last
  | .named negated => !m.foldsUnicode && m.allowsNegated negated
  | .lettered negated => m.allowsLettered negated
  | .bracketed negated s => m.allowsNegated negated && s.usable m
  | .union ss => allUsable m ss
  | .combined l r => l.usable m && r.usable m

/-- Whether several sets can be used. -/
def CharSet.allUsable (m : Mode) : List CharSet → Bool
  | [] => true
  | s :: ss => s.usable m && allUsable m ss

end

mutual

/-- The mode after an expression, if the expression can be used. Flags hold up to the end of their
group. -/
def modeAfter? (m : Mode) : Regex → Option Mode
  | .empty => some m
  | .flags items => some (m.apply items)
  | .literal l => if m.allowsLiteral l then some m else none
  | .dot => if m.unicode then some m else none
  | .look word => if word && m.unicode then none else some m
  | .lettered negated => if m.allowsLettered negated then some m else none
  | .bracketed negated s => if m.allowsNegated negated && s.usable m then some m else none
  | .repeated r => modeAfter? m r
  | .group items r => (modeAfter? (m.apply items) r).map fun _ => m
  | .sequence rs => modeAfterAll? m rs
  | .alternatives rs => modeAfterAll? m rs

/-- The mode after several expressions, if all of them can be used. -/
def modeAfterAll? (m : Mode) : List Regex → Option Mode
  | [] => some m
  | r :: rs => (modeAfter? m r).bind fun m => modeAfterAll? m rs

end

/-- The depth that the parts of an expression may reach. -/
def maxDepth : Nat := 250

/-- Whether a matcher can be made of an expression. -/
def usable (r : Regex) : Bool := r.depth ≤ maxDepth && (modeAfter? .initial r).isSome

/-- Whether a text is an expression of which a matcher can be made. -/
def isUsableText (cs : List Char) : Bool :=
  match parse? cs with
  | some r => r.usable
  | none => false

end Regex

end ExitContract
